import Mathlib.Data.List.Basic
import RemoteDebug.Address.Navigation
import RemoteDebug.Console.Rendering

/-!
# The lines of a listing

A screen shows the first lines of a listing, and the position goes on from the last one shown
(`Listing.getLast?_shown`). The instructions that answer a request stand one behind the other
(`LaidOut`), so a range holds at least as many of them as if all were as long as they can be
(`LaidOut.stop_le`), and no more exactly if they are (`LaidOut.stop_eq_iff`).
-/

namespace RemoteDebug.Decode

/-! ## What a screen shows -/

namespace Listing

variable {listing : Listing} {lines first : Nat}

/-- The last line of a screen is that at which it is full, or else the last of the listing. -/
theorem getLast?_shown (listing : Listing) (hlines : 0 < lines) :
    (listing.instructions.take lines).getLast? =
      listing.instructions[min listing.instructions.length lines - 1]? := by
  rw [List.getLast?_eq_getElem?, List.length_take, Nat.min_comm]
  apply List.getElem?_take_of_lt
  omega

/-- The console shows the instruction last whose address counts as the last one shown. -/
theorem getLast?_disassemblyLines {told : Instruction}
    (h : (listing.instructions.take lines).getLast? = some told) :
    listing.lastShownAddress lines = some told.address ∧
      (Console.disassemblyLines listing lines).getLast? = some (Console.instructionLine told) := by
  unfold lastShownAddress Console.disassemblyLines
  rw [List.getLast?_map, h]
  exact ⟨rfl, rfl⟩

/-- A screen that is full before some line shows lines before that one only. -/
theorem shown_before {front back : List Instruction}
    (hsplit : listing.instructions = front ++ back) (hlines : 0 < lines)
    (hfull : lines ≤ front.length) :
    Console.disassemblyLines listing lines = (front.take lines).map Console.instructionLine ∧
      ∃ told ∈ front, listing.lastShownAddress lines = some told.address := by
  have hshown : listing.instructions.take lines = front.take lines := by
    rw [hsplit]
    exact List.take_append_of_le_length hfull
  have hnonempty : front.take lines ≠ [] := by
    apply List.ne_nil_of_length_pos
    rw [List.length_take]
    omega
  refine ⟨congrArg (List.map Console.instructionLine) hshown, _,
    List.mem_of_mem_take (List.getLast_mem hnonempty), ?_⟩
  unfold lastShownAddress
  rw [hshown, List.getLast?_eq_some_getLast hnonempty]
  rfl

/-- Whether the addresses of a listing increase strictly, none of them before a given one. -/
structure AscendsFrom (listing : Listing) (first : Nat) : Prop where
  within : ∀ told ∈ listing.instructions, first ≤ told.address
  ascends : listing.instructions.Pairwise fun told next => told.address < next.address

/-- Behind the first line the addresses are beyond the one from which they increase. -/
theorem AscendsFrom.lt_address (h : listing.AscendsFrom first) {index : Nat} {told : Instruction}
    (hindex : 0 < index) (htold : listing.instructions[index]? = some told) :
    first < told.address := by
  obtain ⟨hlength, rfl⟩ := List.getElem?_eq_some_iff.mp htold
  have hnonempty : 0 < listing.instructions.length := by omega
  have hfirst := h.within _ (List.getElem_mem hnonempty)
  have hnext := List.pairwise_iff_getElem.mp h.ascends 0 index hnonempty hlength hindex
  omega

end Listing

/-! ## Instructions one behind the other -/

/-- Whether instructions of such sizes stand one behind the other in a range of addresses. -/
inductive LaidOut : Nat → List Instruction → List Nat → Nat → Prop
  | nil (stop : Nat) : LaidOut stop [] [] stop
  | cons {line : Instruction} {rest : List Instruction} {size start stop : Nat}
    {sizes : List Nat} : line.address = start → LaidOut (start + size) rest sizes stop →
      LaidOut start (line :: rest) (size :: sizes) stop

namespace LaidOut

variable {start stop lines : Nat} {instructions front back : List Instruction}
  {line : Instruction} {sizes : List Nat}

/-- Up to one of them and from there on the instructions are laid out again. -/
theorem split (h : LaidOut start (front ++ line :: back) sizes stop) :
    LaidOut start front (sizes.take front.length) line.address ∧
      LaidOut line.address (line :: back) (sizes.drop front.length) stop := by
  induction front generalizing start sizes with
  | nil =>
    cases h with
    | cons haddress hrest =>
      subst haddress
      exact ⟨.nil _, .cons rfl hrest⟩
  | cons first rest ih =>
    cases h with
    | cons haddress hrest =>
      obtain ⟨hbefore, hbehind⟩ := ih hrest
      exact ⟨.cons haddress hbefore, hbehind⟩

/-- A range of instructions does not end before it starts. -/
theorem start_le (h : LaidOut start instructions sizes stop) : start ≤ stop := by
  induction h with
  | nil => exact Nat.le_refl _
  | cons _ _ ih => omega

/-- Instructions that take some bytes stand before the end of their range. -/
theorem address_lt (h : LaidOut start instructions sizes stop) (hsizes : ∀ size ∈ sizes, 0 < size) :
    ∀ told ∈ instructions, told.address < stop := by
  induction h with
  | nil => simp
  | cons haddress hrest ih =>
    rw [List.forall_mem_cons] at hsizes ⊢
    have hstart := hrest.start_le
    exact ⟨by omega, ih hsizes.2⟩

/-- So many instructions take no more bytes than if all were as long as they can be. -/
theorem stop_le (h : LaidOut start instructions sizes stop)
    (hsizes : ∀ size ∈ sizes, size ≤ instructionWidth) :
    stop ≤ start + instructionWidth * instructions.length := by
  induction h with
  | nil => simp
  | cons haddress hrest ih =>
    rw [List.forall_mem_cons] at hsizes
    have htail := ih hsizes.2
    rw [List.length_cons, Nat.mul_succ]
    omega

/-- They take as many exactly if all are. -/
theorem stop_eq_iff (h : LaidOut start instructions sizes stop)
    (hsizes : ∀ size ∈ sizes, size ≤ instructionWidth) :
    stop = start + instructionWidth * instructions.length ↔
      ∀ size ∈ sizes, size = instructionWidth := by
  induction h with
  | nil => simp
  | cons haddress hrest ih =>
    rw [List.forall_mem_cons] at hsizes ⊢
    have htail := hrest.stop_le hsizes.2
    rw [List.length_cons, Nat.mul_succ, ← ih hsizes.2]
    omega

/-- Where an instruction stands so many of the longest ones behind the start, at least so many stand
before it, and no more exactly if they are the longest. -/
theorem length_before (h : LaidOut start (front ++ line :: back) sizes stop)
    (hsizes : ∀ size ∈ sizes, size ≤ instructionWidth)
    (hfar : line.address = start + instructionWidth * lines) :
    lines ≤ front.length ∧
      (front.drop lines = [] ↔ ∀ size ∈ sizes.take front.length, size = instructionWidth) := by
  obtain ⟨hbefore, -⟩ := h.split
  have hshort : ∀ size ∈ sizes.take front.length, size ≤ instructionWidth := by
    intro size hsize
    exact hsizes size (List.mem_of_mem_take hsize)
  have hle := hbefore.stop_le hshort
  rw [List.drop_eq_nil_iff, ← hbefore.stop_eq_iff hshort]
  unfold instructionWidth at hfar hle ⊢
  omega

end LaidOut

end RemoteDebug.Decode
