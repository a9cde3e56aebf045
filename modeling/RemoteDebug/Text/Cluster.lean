import RemoteDebug.Text.Cluster.Role

/-!
# Clusters

What a reader takes for one character may be written with several: a letter with its marks, a
syllable, a flag, a family of pictures. A cluster is such a run of characters. Cutting a text into
clusters goes once from left to right and remembers, besides the role of the last character, what
the run up to there still waits for. The rules are those of Unicode for extended grapheme clusters.

The main statement is `flatten_clusters`: the clusters of a text are the text, cut into pieces.
-/

namespace RemoteDebug.Text

/-! ## What a run waits for -/

/-- What the characters read so far may yet be joined to. -/
inductive Pending where
  | nothing
  /-- A picture stands last, with nothing but extenders behind it. -/
  | picture
  /-- A joiner stands behind a picture: another picture goes with it. -/
  | joinedPicture
  /-- A consonant stands last, with nothing but extenders behind it. -/
  | consonant
  /-- A linker stands behind a consonant: another consonant goes with it. -/
  | linkedConsonant
  /-- The first letter of a flag stands last: the second one goes with it. -/
  | flagLetter
deriving DecidableEq, Repr

/-- What the characters wait for behind one of some role. -/
def Pending.next : Pending → Role → Pending
  | _, .picture => .picture
  | _, .consonant => .consonant
  | .flagLetter, .flagLetter => .nothing
  | _, .flagLetter => .flagLetter
  | .picture, .extender | .picture, .linker | .picture, .nonJoiner => .picture
  | .picture, .joiner => .joinedPicture
  | .consonant, .extender | .consonant, .joiner => .consonant
  | .consonant, .linker => .linkedConsonant
  | .linkedConsonant, .extender | .linkedConsonant, .joiner
  | .linkedConsonant, .linker => .linkedConsonant
  | _, _ => .nothing

/-- Whether a character goes with the ones before it. -/
def joins (last : Role) (pending : Pending) (role : Role) : Bool :=
  match last, role with
  | .carriageReturn, .lineFeed => true
  | .carriageReturn, _ | .lineFeed, _ | .control, _ => false
  | _, .carriageReturn | _, .lineFeed | _, .control => false
  | .leading, .leading | .leading, .vowel | .leading, .openSyllable
  | .leading, .closedSyllable => true
  | .openSyllable, .vowel | .openSyllable, .trailing | .vowel, .vowel
  | .vowel, .trailing => true
  | .closedSyllable, .trailing | .trailing, .trailing => true
  | _, .extender | _, .linker | _, .joiner | _, .nonJoiner | _, .spacing => true
  | .prepended, _ => true
  | _, .consonant => pending == .linkedConsonant
  | _, .picture => pending == .joinedPicture
  | _, .flagLetter => pending == .flagLetter
  | _, _ => false

/-! ## Clusters -/

/-- The clusters of a text behind a cluster that is not finished, whose characters are given newest
first. -/
def clustersFrom (last : Role) (pending : Pending) (newestFirst : List Char) :
    List Char → List (List Char)
  | [] => [newestFirst.reverse]
  | c :: rest =>
    let role := roleOf c
    if joins last pending role then
      clustersFrom role (pending.next role) (c :: newestFirst) rest
    else newestFirst.reverse :: clustersFrom role (pending.next role) [c] rest

/-- The clusters of a text, in order. -/
def clusters : List Char → List (List Char)
  | [] => []
  | c :: rest => clustersFrom (roleOf c) (Pending.nothing.next (roleOf c)) [c] rest

theorem flatten_clustersFrom (last : Role) (pending : Pending) (newestFirst text : List Char) :
    (clustersFrom last pending newestFirst text).flatten = newestFirst.reverse ++ text := by
  induction text generalizing last pending newestFirst with
  | nil => rw [clustersFrom, List.flatten_singleton, List.append_nil]
  | cons c rest ih =>
    rw [clustersFrom]
    split
    · rw [ih, List.reverse_cons, List.append_assoc, List.singleton_append]
    · rw [List.flatten_cons, ih, List.reverse_singleton, List.singleton_append]

/-- The clusters of a text are the text, cut into pieces. -/
theorem flatten_clusters (text : List Char) : (clusters text).flatten = text := by
  cases text with
  | nil => rfl
  | cons c rest => exact flatten_clustersFrom _ _ [c] rest

end RemoteDebug.Text
