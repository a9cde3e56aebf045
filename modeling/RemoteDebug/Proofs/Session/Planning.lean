import RemoteDebug.Proofs.Address.Screens
import RemoteDebug.Session.Refresh

/-!
# What a refresh decides

Between its two exchanges a refresh decides where to look and which windows to ask for. It looks for
the program counter only if nothing else says where to look, and fails there if it fails at all
(`isOfStatus_of_programCounter`): windows are never planned in vain (`plannedWindows_ok`). The first
address of the position behind the refresh is that of the focused view's window, or else the one at
which it looked (`positionAfter_first`).
-/

namespace RemoteDebug

open RemoteDebug.Wire RemoteDebug.Decode

section

variable {α β : Type}

theorem ok_of_bind {first : Except Error α} {next : α → Except Error β} {b : β}
    (h : first.bind next = .ok b) : ∃ a, first = .ok a ∧ next a = .ok b := by
  cases first with
  | error failed => cases h
  | ok a => exact ⟨a, rfl, h⟩

theorem ok_of_map {found : Except Error α} {change : α → β} {b : β}
    (h : found.map change = .ok b) : ∃ a, found = .ok a ∧ change a = b := by
  cases found with
  | error failed => cases h
  | ok a =>
    cases h
    exact ⟨a, rfl, rfl⟩

end

/-! ## Where to look -/

/-- Whether an error is about the status reply. -/
def Error.isOfStatus : Error → Bool
  | .decode _ | .noProgramCounter => true
  | _ => false

/-- All that can come of looking for the program counter. -/
theorem programCounter_eq (block : Block) :
    programCounter block =
      if block.kind = .status then
        match programCounterText? block with
        | none => .error .noProgramCounter
        | some text =>
          match number "PC" (String.ofList text) with
          | .ok address => .ok address
          | .error cause => .error (.decode cause)
      else .error (.decode (wrongKind "status" block)) := by
  unfold programCounter
  by_cases hkind : block.kind = .status
  · rw [if_pos hkind, if_pos (beq_iff_eq.mpr hkind)]
    rcases programCounterText? block with _ | text
    · rfl
    · rcases number "PC" (String.ofList text) with _ | _ <;> rfl
  · rw [if_neg hkind, if_neg (mt beq_iff_eq.mp hkind)]
    rfl

theorem isOfStatus_of_programCounter {block : Block} {cause : Error}
    (h : programCounter block = .error cause) : cause.isOfStatus = true := by
  rw [programCounter_eq] at h
  split at h
  · split at h
    · cases h
      rfl
    · split at h
      · cases h
      · cases h
        rfl
  · cases h
    rfl

/-- A position that is known is where a refresh looks, whatever the status. -/
theorem anchor_of_known {target : TargetState} {first : Nat} (h : target.first = some first)
    (status : Option Block) :
    anchor target status none =
      .ok { first, second := target.second, last := target.last } := by
  unfold anchor
  rw [h]

/-- A position that is not known is where the status says. -/
theorem anchor_of_status {target : TargetState} (h : target.first = none) (block : Block) :
    anchor target (some block) none =
      (programCounter block).map fun pc =>
        { first := pc, second := target.second, last := target.last } := by
  unfold anchor
  rw [h]

/-! ## Which windows to ask for -/

theorem Window.first_le_max (window : Window) : window.first ≤ maxAddress :=
  Nat.le_trans (Nat.le_of_lt window.first_lt_last) window.last_le_max

namespace Session

variable {session : Session}

theorem plannedWindow_of_plannedWindows {cursor : Cursor} {move : Move}
    {windows : PerView (Option Window)} (h : session.plannedWindows cursor move = .ok windows)
    (view : View) : session.plannedWindow cursor move view = .ok (windows.get view) := by
  obtain ⟨registers, hregisters, h⟩ := ok_of_bind h
  obtain ⟨memory, hmemory, h⟩ := ok_of_bind h
  obtain ⟨disassembly, hdisassembly, h⟩ := ok_of_bind h
  cases h
  cases view with
  | registers => exact hregisters
  | memory => exact hmemory
  | disassembly => exact hdisassembly

theorem plannedWindow_ok (session : Session) (cursor : Cursor) (move : Move) (view : View) :
    ∃ window, session.plannedWindow cursor move view = .ok window ∧
      (session.views.get view = true → window.isSome = view.isAddressed) := by
  unfold plannedWindow
  split
  · obtain ⟨window, hwindow, haddressed, -⟩ := view.window?_fills cursor
      (if view = session.focus then move else .stay) session.settings.lines
    exact ⟨window, hwindow, fun _ => haddressed⟩
  · rename_i hinactive
    exact ⟨none, rfl, fun hactive => absurd hactive hinactive⟩

theorem plannedWindows_ok (session : Session) (cursor : Cursor) (move : Move) :
    ∃ windows, session.plannedWindows cursor move = .ok windows ∧
      ∀ view, session.views.get view = true →
        (windows.get view).isSome = view.isAddressed := by
  obtain ⟨registers, hregisters, hregistersfit⟩ := session.plannedWindow_ok cursor move .registers
  obtain ⟨memory, hmemory, hmemoryfit⟩ := session.plannedWindow_ok cursor move .memory
  obtain ⟨disassembly, hdisassembly, hdisassemblyfit⟩ :=
    session.plannedWindow_ok cursor move .disassembly
  refine ⟨{ registers, memory, disassembly }, ?_, fun view => ?_⟩
  · unfold plannedWindows
    rw [hregisters, hmemory, hdisassembly]
    rfl
  · cases view with
    | registers => exact hregistersfit
    | memory => exact hmemoryfit
    | disassembly => exact hdisassemblyfit

/-- The position behind a refresh starts where the focused view's window does. -/
theorem positionAfter_first (session : Session) (cursor : Cursor)
    (windows : PerView (Option Window)) (shown : PerView (Option Shown)) :
    (session.positionAfter cursor windows shown).first =
      match windows.get session.focus with
      | some window => window.first
      | none => cursor.first := by
  unfold positionAfter
  dsimp only
  cases windows.get session.focus <;> split <;> rfl

end Session

end RemoteDebug
