import RemoteDebug.Console.Rendering
import RemoteDebug.Proofs.Console.Colours
import RemoteDebug.Proofs.Decode.MemoryRows

/-!
# Memory from the wire to the screen

Between the digits that a target sends and the rows on the screen stand the decoder, the cut into
rows, their texts, the cut of a text at its bar and the colours. `told_memory_is_shown` says that
they lose nothing: a dump that is written in the address space is read, and what is read is shown
whole (`IsShownWhole`).
-/

namespace RemoteDebug.Console

open RemoteDebug.Decode RemoteDebug.Decode.MemoryDump RemoteDebug.Text RemoteDebug.Wire

/-! ## Lines of the memory view -/

/-- The text before the first place where a separator stands and the text behind it, or none if it
stands nowhere. -/
def splitAtText? (separator : List Char) : List Char → Option (List Char × List Char)
  | [] => none
  | c :: rest =>
    if separator.isPrefixOf (c :: rest) then some ([], (c :: rest).drop separator.length)
    else (splitAtText? separator rest).map fun (front, behind) => (c :: front, behind)

/-- The line of the memory view for the text of a row: what stands before the first bar is shown as
an address. -/
def lineOfText (text : String) : Line :=
  match splitAtText? " | ".toList text.toList with
  | some (address, bytes) =>
    [{ text := String.ofList address, style := some .address },
     { text := " | " ++ String.ofList bytes }]
  | none => [{ text }]

theorem splitAtText?_append {front : List Char} (hfront : HasNoBlank front) (behind : List Char) :
    splitAtText? " | ".toList (front ++ " | ".toList ++ behind) = some (front, behind) := by
  induction front with
  | nil => rfl
  | cons c rest ih =>
    obtain ⟨hc, hrest⟩ := List.forall_mem_cons.mp hfront
    have hno : " | ".toList.isPrefixOf (c :: (rest ++ " | ".toList ++ behind)) = false := by
      have hne : (' ' == c) = false := by
        refine beq_false_of_ne ?_
        rintro rfl
        cases hc
      simp [List.isPrefixOf, hne]
    rw [List.cons_append, List.cons_append, splitAtText?, hno, ih hrest]
    rfl

/-- A line of the memory view is what its row's text makes it. -/
theorem lineOfText_rowText (row : Nat × List UInt8) :
    lineOfText (rowText row) = memoryLine row := by
  have htext : (rowText row).toList =
      Hex.digits 6 row.1 ++ " | ".toList ++ (rowBytes row).toList := by
    rw [toList_rowText]
    simp
  unfold lineOfText
  rw [htext, splitAtText?_append (isWord_digits 6 row.1).1]
  simp only [String.ofList_toList]
  rfl

theorem bare_memoryLine (row : Nat × List UInt8) : Line.bare (memoryLine row) = rowText row := by
  unfold Line.bare memoryLine rowText
  simp [String.join, String.append_assoc]

/-- Without its colours a line of the memory view is its row's text. -/
theorem uncoloured_memoryLine (row : Nat × List UInt8) :
    uncoloured (Line.coloured (memoryLine row)) = rowText row := by
  have hplain : ∀ span ∈ memoryLine row, '\x1b' ∉ span.text.toList := by
    intro span hspan hescape
    have hmem : '\x1b' ∈ (rowText row).toList := by
      rw [← bare_memoryLine, Line.bare, String.toList_join]
      exact List.mem_flatMap.mpr ⟨span.text, List.mem_map_of_mem hspan, hescape⟩
    rcases isDigit_of_mem_rowText hmem with hblank | hbar | hdigit
    · exact absurd hblank (by decide)
    · exact absurd hbar (by decide)
    · exact absurd hdigit (by decide)
  rw [uncoloured_coloured hplain, bare_memoryLine]

/-! ## Shown whole -/

/-- Whether nothing of a dump is lost on its way to the screen. It lies in the address space, where
words of 32 bits do not overflow. Its rows are as many as sixteen bytes each make, the text of each
starts with six digits of the address where it should be, and the words of two digits behind are
the bytes from there on, which in all rows together are the bytes of the dump. On a screen of so
many lines stand the texts of the first rows, each cut at its bar and with colours. -/
structure IsShownWhole (dump : MemoryDump) : Prop where
  starts_inside : dump.start ≤ maxAddress
  stops_inside : dump.stop ≤ maxAddress + 1
  stop_fits : dump.stopWord.toNat = dump.start + dump.size
  row_count : dump.rows.length = (dump.size + 15) / 16
  row_fits : ∀ index < dump.rows.length, (dump.rowWord index).toNat = dump.start + 16 * index
  row_starts : ∀ index text, (dump.rows.map rowText)[index]? = some text →
    (text.toList.take 6).length = 6 ∧
      Hex.read? (text.toList.take 6) = some (dump.start + 16 * index)
  row_holds : ∀ index text, (dump.rows.map rowText)[index]? = some text →
    Hex.bytes? ((shownBytes text).flatMap String.toList) =
      some ((dump.bytes.drop (16 * index)).take 16)
  two_digits : ∀ text ∈ dump.rows.map rowText, ∀ word ∈ shownBytes text, word.length = 2
  rows_hold : Hex.bytes? (((dump.rows.map rowText).flatMap shownBytes).flatMap String.toList) =
    some dump.bytes
  screen_cuts : ∀ limit,
    memoryLines dump limit = ((dump.rows.map rowText).take limit).map lineOfText
  screen_shows : ∀ limit, (memoryLines dump limit).map (fun line => uncoloured line.coloured) =
    (dump.rows.map rowText).take limit

section

variable {dump : MemoryDump} {index : Nat} {text : String}

/-- A text is that of the row at its place. -/
theorem exists_row_of_text (h : (dump.rows.map rowText)[index]? = some text) :
    ∃ row, text = rowText row ∧ row.1 = dump.start + 16 * index ∧
      row.2 = (dump.bytes.drop (16 * index)).take 16 ∧ 16 * index < dump.size := by
  rw [List.getElem?_map] at h
  obtain ⟨row, hrow, htext⟩ := Option.map_eq_some_iff.mp h
  obtain ⟨haddress, hbytes, hlength⟩ := getElem?_rowsFrom hrow
  exact ⟨row, htext.symm, haddress, hbytes, hlength⟩

theorem take_rowText {row : Nat × List UInt8} (h : row.1 ≤ maxAddress) :
    (rowText row).toList.take 6 = Hex.digits 6 row.1 ∧ (Hex.digits 6 row.1).length = 6 := by
  have hlength : (Hex.digits 6 row.1).length = 6 := by
    apply Hex.length_digits (by decide)
    unfold maxAddress at h
    omega
  rw [toList_rowText]
  exact ⟨List.take_left' hlength, hlength⟩

/-- A dump in the address space is shown whole. -/
theorem isShownWhole_of_bounds (hstart : dump.start ≤ maxAddress)
    (hstop : dump.stop ≤ maxAddress + 1) : IsShownWhole dump where
  starts_inside := hstart
  stops_inside := hstop
  stop_fits := toNat_stopWord hstop
  row_count := length_rowsFrom dump.start dump.bytes
  row_fits := by
    intro index hindex
    have hcount : dump.rows.length = (dump.size + 15) / 16 :=
      length_rowsFrom dump.start dump.bytes
    apply toNat_rowWord
    unfold MemoryDump.stop at hstop
    unfold memoryRowWidth
    omega
  row_starts := by
    intro index text h
    obtain ⟨row, rfl, haddress, -, hlength⟩ := exists_row_of_text h
    have hinside : row.1 ≤ maxAddress := by
      unfold MemoryDump.stop at hstop
      omega
    obtain ⟨htake, hsix⟩ := take_rowText hinside
    rw [htake, ← haddress]
    exact ⟨hsix, Hex.read?_of_sameDigits (List.forall₂_same.mpr fun _ _ => .inl rfl)⟩
  row_holds := by
    intro index text h
    obtain ⟨row, rfl, -, hbytes, -⟩ := exists_row_of_text h
    rw [← hbytes]
    exact bytes?_shownBytes (shownBytes_rowText row)
  two_digits := by
    intro text htext word hword
    obtain ⟨row, -, rfl⟩ := List.mem_map.mp htext
    exact length_of_mem_shownBytes hword
  rows_hold := by
    have hrows : dump.rows.flatMap Prod.snd = dump.bytes := flatMap_rowsFrom dump.start dump.bytes
    have htexts := flatMap_shownBytes dump.rows
    rw [hrows] at htexts
    exact bytes?_shownBytes htexts
  screen_cuts := by
    intro limit
    have hlines : lineOfText ∘ rowText = memoryLine := by
      funext row
      rw [Function.comp_apply, lineOfText_rowText]
    unfold memoryLines
    rw [← List.map_take, List.map_map, hlines]
  screen_shows := by
    intro limit
    have htexts : (fun line => uncoloured (Line.coloured line)) ∘ memoryLine = rowText :=
      funext uncoloured_memoryLine
    unfold memoryLines
    rw [List.map_map, htexts, List.map_take]

end

/-- A dump in the address space that is written in a block is read from it, whatever size the block
tells and wherever its digits are cut; and a dump that is read from a block is shown whole. -/
theorem told_memory_is_shown :
    (∀ block dump, WritesDump block dump → dump.start ≤ maxAddress →
      dump.stop ≤ maxAddress + 1 → memory block = .ok dump) ∧
    ∀ block dump, memory block = .ok dump → IsShownWhole dump := by
  constructor
  · intro block dump hwrites hstart hstop
    exact memory_of_writesDump hwrites hstart hstop
  · intro block dump hread
    obtain ⟨hstart, hstop⟩ := bounds_of_memory hread
    exact isShownWhole_of_bounds hstart hstop

/-- Ten bytes up to the end of the address space, cut inside two of them, with digits of either case
and a wrong size. -/
theorem last_bytes_are_shown :
    let block : Block :=
      { tagLine := "#mem OK $fffff6: 0100 C", payload := ["aFe0 ", "", "\t102030405060708"] }
    let dump : MemoryDump := { start := 0xFFFFF6, bytes := [0xCA, 0xFE, 1, 2, 3, 4, 5, 6, 7, 8] }
    WritesDump block dump ∧ dump.start ≤ maxAddress ∧ dump.stop ≤ maxAddress + 1 ∧
      memory block = .ok dump ∧ IsShownWhole dump := by
  intro block dump
  have htag : HasTag block .memory [memoryStatus, "$fffff6:", "0100", "C"] :=
    ⟨"mem", by decide, " OK $fffff6: 0100 C".toList, by decide,
      fun c hc => by cases hc; rfl, by decide⟩
  have hstart : WritesNumber "$fffff6:".toList dump.start :=
    ⟨['$'], "fffff6".toList, [':'], 6, by decide, .inr (.inl rfl),
      by unfold Hex.SameDigits Hex.IsCaseOf; decide, List.forall_mem_singleton.mpr rfl⟩
  have hlines : List.Forall₂ Surrounds block.payload
      ["aFe0".toList, [], "102030405060708".toList] := by
    exact .cons ⟨[], [' '], rfl, by decide, by decide⟩ (.cons ⟨[], [], rfl, by decide, by decide⟩
      (.cons ⟨['\t'], [], rfl, by decide, by decide⟩ .nil))
  have hwrites : WritesDump block dump :=
    ⟨"$fffff6:", "0100", 0x100, ["C"], _, htag, hstart, by decide, hlines,
      by unfold Hex.SameDigits Hex.IsCaseOf; decide⟩
  obtain ⟨hread, hshown⟩ := told_memory_is_shown
  have hmemory := hread block dump hwrites (by decide) (by decide)
  exact ⟨hwrites, by decide, by decide, hmemory, hshown block dump hmemory⟩

end RemoteDebug.Console
