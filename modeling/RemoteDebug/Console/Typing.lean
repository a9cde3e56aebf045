import RemoteDebug.Text.Cluster

/-!
# Typed lines

A line comes with the backspaces that were typed, and each of them takes back one cluster of what
stands before it. The length of a cluster is remembered in one byte, as its number of bytes modulo
256: of a longer cluster only the bytes above the multiple of 256 are taken back.

The main statement is `entered_eq_self`: a line without backspaces is what was typed.
-/

namespace RemoteDebug.Console.Typing

open RemoteDebug.Text

/-- The character that takes back what was typed before it. -/
def backspace : Char :=
  '\x08'

/-- What is left of a line so far: its characters, and the lengths of its clusters, both newest
first. -/
structure Kept where
  chars : List Char := []
  lengths : List Nat := []

/-- One more than the largest length of a cluster that is remembered. -/
def lengthBound : Nat :=
  256

/-- The length of a cluster as it is remembered. -/
def rememberedLength (cluster : List Char) : Nat :=
  cluster.foldl (fun length c => length + c.utf8Size) 0 % lengthBound

/-- Characters without as many of the first as so many bytes hold whole. -/
def dropBytes : Nat → List Char → List Char
  | _, [] => []
  | count, c :: rest =>
    if c.utf8Size ≤ count then dropBytes (count - c.utf8Size) rest else c :: rest

namespace Kept

/-- What is left behind one more cluster. -/
def add (kept : Kept) (cluster : List Char) : Kept :=
  { chars := cluster.reverse ++ kept.chars
    lengths := rememberedLength cluster :: kept.lengths }

/-- What is left once the last cluster is taken back. -/
def takeBack (kept : Kept) : Kept :=
  match kept.lengths with
  | [] => kept
  | length :: lengths => { chars := dropBytes length kept.chars, lengths }

/-- What is left behind a cluster as it was typed. -/
def type (kept : Kept) (cluster : List Char) : Kept :=
  if cluster = [backspace] then kept.takeBack else kept.add cluster

end Kept

/-- What a typed line says once its backspaces are carried out. -/
def entered (line : String) : String :=
  String.ofList ((clusters line.toList).foldl Kept.type {}).chars.reverse

/-! ## Lines without backspaces -/

theorem chars_foldl_type (cut : List (List Char)) (kept : Kept)
    (h : ∀ cluster ∈ cut, backspace ∉ cluster) :
    (cut.foldl Kept.type kept).chars = cut.flatten.reverse ++ kept.chars := by
  induction cut generalizing kept with
  | nil => rfl
  | cons cluster rest ih =>
    have hne : cluster ≠ [backspace] := fun he =>
      h cluster List.mem_cons_self (he ▸ List.mem_singleton_self backspace)
    rw [List.foldl_cons, ih _ fun other hm => h other (List.mem_cons_of_mem _ hm), Kept.type,
      if_neg hne, Kept.add, List.flatten_cons, List.reverse_append, List.append_assoc]

/-- A line without backspaces is what was typed. -/
theorem entered_eq_self (line : String) (h : backspace ∉ line.toList) : entered line = line := by
  have hcut : ∀ cluster ∈ clusters line.toList, backspace ∉ cluster := fun cluster hm hin =>
    h (flatten_clusters line.toList ▸ List.mem_flatten_of_mem hm hin)
  rw [entered, chars_foldl_type _ _ hcut, flatten_clusters, List.append_nil, List.reverse_reverse,
    String.ofList_toList]

end RemoteDebug.Console.Typing
