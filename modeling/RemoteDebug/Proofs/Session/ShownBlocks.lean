import Mathlib.Data.List.Induction
import RemoteDebug.Session.Refresh

/-!
# What blocks show

A refresh goes through the blocks of a reply and collects what each shows. A block changes the entry
of one view at most, so a view shows what the last of its blocks does (`get_shownIn`), and blocks
that belong to no view count for nothing.
-/

namespace RemoteDebug

open RemoteDebug.Wire RemoteDebug.Decode

/-- Whether a block is one that a view shows. -/
def Wire.Block.isFor (block : Block) (view : View) : Bool :=
  viewOfKind? block.kind = some view

namespace Session

/-- What the views show after one more block. -/
def showBlock (session : Session) (shown : PerView (Option Shown)) (block : Block) :
    PerView (Option Shown) :=
  match Decode.block? block session.snapshot with
  | some (view, content) =>
    if session.views.get view then shown.set view (some content) else shown
  | none => shown

theorem shownIn_eq_foldl (session : Session) (blocks : List Block) :
    session.shownIn blocks = blocks.foldl session.showBlock (.const none) := rfl

theorem shownIn_append_singleton (session : Session) (blocks : List Block) (block : Block) :
    session.shownIn (blocks ++ [block]) = session.showBlock (session.shownIn blocks) block := by
  rw [shownIn_eq_foldl, List.foldl_append]
  rfl

theorem get_showBlock (session : Session) (shown : PerView (Option Shown)) (block : Block)
    (view : View) :
    (session.showBlock shown block).get view =
      if block.isFor view && session.views.get view then
        some (content view block session.snapshot)
      else shown.get view := by
  unfold showBlock Decode.block? Block.isFor
  cases hview : viewOfKind? block.kind with
  | none => rfl
  | some other =>
    dsimp only [Option.map_some]
    by_cases hsame : other = view
    · subst hsame
      cases hactive : session.views.get other with
      | true => simp
      | false => simp
    · have hother : (some other = some view) = False := by simp [hsame]
      cases session.views.get other with
      | true => simp [hother, hsame]
      | false => simp [hother]

/-- An active view shows what the last of its blocks does, read against the registers from before;
another view shows nothing. -/
theorem get_shownIn (session : Session) (blocks : List Block) (view : View) :
    (session.shownIn blocks).get view =
      if session.views.get view then
        (blocks.filter (·.isFor view)).getLast?.map (content view · session.snapshot)
      else none := by
  induction blocks using List.reverseRecOn with
  | nil =>
    rw [shownIn_eq_foldl]
    simp
  | append_singleton front block ih =>
    rw [shownIn_append_singleton, get_showBlock, ih, List.filter_append]
    cases hactive : session.views.get view with
    | false => simp
    | true => cases hfor : block.isFor view <;> simp [hfor]

end Session

end RemoteDebug
