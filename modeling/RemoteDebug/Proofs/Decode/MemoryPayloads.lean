import RemoteDebug.Proofs.Decode.WrittenBlocks
import RemoteDebug.Proofs.Text.Spacing

/-!
# Payloads of memory blocks

Once the first fields of a memory block are readable, what is read depends on the text of its
payload only (`toOption_memory`). So a dump is read back however the digits of its bytes are cut
(`memory_of_writes`, `memory_of_writesDump`). A blank behind the first fields of the tag line, or at
the end of a payload line, is no part of the text; a blank inside a payload line is, and spoils it.
So two layouts of the same characters are read alike exactly if a payload line with a gap stands in
both of them or in neither, or if the characters write no bytes in any layout
(`layout_makes_no_difference_iff`).
-/

namespace RemoteDebug.Decode

open RemoteDebug.Wire RemoteDebug.Text RemoteDebug.Hex

variable {block other : Block} {address size : String} {pieces others : List String}
  {start : Nat} {dump : MemoryDump}

/-! ## What is read -/

/-- Whether the first fields of a memory block are readable: the request succeeded, and the block
tells where its bytes start and how many it means to send. What is left of its tag line are the
first pieces of its payload. -/
structure HasMemoryFields (block : Block) (address size : String) (start : Nat)
    (pieces : List String) : Prop where
  kind : block.kind = .memory
  fields : block.tagFields = memoryStatus :: address :: size :: pieces
  starts : number "address" address = .ok start
  counts : ∃ count, number "size" size = .ok count

/-- The dump that digits write from an address on, if they write bytes and all of these lie in the
address space. -/
def dumpOf? (start : Nat) (digits : List Char) : Option MemoryDump :=
  (bytes? digits).bind fun bytes =>
    if start ≤ maxAddress ∧ start + bytes.length ≤ maxAddress + 1 then some { start, bytes }
    else none

theorem dumpOf?_eq_some_iff {digits : List Char} :
    dumpOf? start digits = some dump ↔
      dump.start = start ∧ bytes? digits = some dump.bytes ∧ dump.start ≤ maxAddress ∧
        dump.stop ≤ maxAddress + 1 := by
  unfold dumpOf? MemoryDump.stop MemoryDump.size
  constructor
  · intro h
    obtain ⟨bytes, hbytes, hdump⟩ := Option.bind_eq_some_iff.mp h
    obtain ⟨hroom, hsame⟩ := Option.ite_none_right_eq_some.mp hdump
    cases hsame
    exact ⟨rfl, hbytes, hroom⟩
  · rintro ⟨rfl, hbytes, hroom⟩
    rw [hbytes, Option.bind_some, if_pos hroom]

/-- A block with readable first fields is read as the dump that its payload writes. -/
theorem toOption_memory (h : HasMemoryFields block address size start pieces) :
    (memory block).toOption = dumpOf? start (memoryPayload pieces block).toList := by
  obtain ⟨count, hcount⟩ := h.counts
  unfold memory dumpOf?
  simp only [h.kind, h.fields, h.starts, hcount, beq_self_eq_true, if_true, bind, Except.bind]
  by_cases hstart : maxAddress < start
  · rw [if_pos hstart]
    cases bytes? (memoryPayload pieces block).toList with
    | none => rfl
    | some bytes =>
      rw [Option.bind_some, if_neg (by omega)]
      rfl
  · rw [if_neg hstart]
    cases bytes? (memoryPayload pieces block).toList with
    | none => rfl
    | some bytes =>
      dsimp only
      rw [Option.bind_some]
      by_cases hroom : maxAddress + 1 < start + bytes.length
      · rw [if_pos hroom, if_neg (by omega)]
        rfl
      · rw [if_neg hroom, if_pos (by omega)]
        rfl

/-- The first fields of a block that is read are readable. -/
theorem exists_fields_of_memory (h : memory block = .ok dump) :
    ∃ address size start pieces, HasMemoryFields block address size start pieces := by
  unfold memory at h
  by_cases hkind : block.kind = .memory
  · rcases hfields : block.tagFields with _ | ⟨status, fields⟩
    · rw [hfields, hkind] at h
      cases h
    by_cases hstatus : status = memoryStatus
    · subst hstatus
      simp only [hkind, hfields, beq_self_eq_true, if_true, bind, Except.bind] at h
      rcases fields with _ | ⟨address, _ | ⟨size, pieces⟩⟩
      · cases h
      · dsimp only at h
        split at h
        · cases h
        · split at h <;> cases h
      dsimp only at h
      cases hstart : number "address" address with
      | error cause =>
        rw [hstart] at h
        cases h
      | ok start =>
        cases hcount : number "size" size with
        | error cause =>
          simp only [hstart, hcount] at h
          split at h <;> cases h
        | ok count => exact ⟨address, size, start, pieces, hkind, hfields, hstart, count, hcount⟩
    · simp only [hkind, hfields, beq_self_eq_true, beq_eq_false_iff_ne.mpr hstatus, bind,
        Except.bind] at h
      cases h
  · simp only [beq_eq_false_iff_ne.mpr hkind, bind, Except.bind] at h
    cases h

/-- What is read is a dump inside the address space. -/
theorem bounds_of_memory (h : memory block = .ok dump) :
    dump.start ≤ maxAddress ∧ dump.stop ≤ maxAddress + 1 := by
  obtain ⟨address, size, start, pieces, hfields⟩ := exists_fields_of_memory h
  have hread := toOption_memory hfields
  rw [h] at hread
  exact (dumpOf?_eq_some_iff.mp hread.symm).2.2

/-- Bytes inside the address space that the payload writes are read. -/
theorem memory_of_bytes (h : HasMemoryFields block address size dump.start pieces)
    (hbytes : bytes? (memoryPayload pieces block).toList = some dump.bytes)
    (hstart : dump.start ≤ maxAddress) (hstop : dump.stop ≤ maxAddress + 1) :
    memory block = .ok dump := by
  have hread := toOption_memory h
  rw [dumpOf?_eq_some_iff.mpr ⟨rfl, hbytes, hstart, hstop⟩] at hread
  cases hmemory : memory block with
  | error cause =>
    rw [hmemory] at hread
    cases hread
  | ok told =>
    rw [hmemory] at hread
    exact congrArg Except.ok (Option.some.inj hread)

/-! ## Bytes cut anywhere -/

/-- Whether a block tells bytes from an address on. The digits of the bytes stand behind the number
of the bytes and on the payload lines, cut anywhere. -/
def WritesMemory (block : Block) (dump : MemoryDump) : Prop :=
  ∃ address size pieces, HasTag block .memory (memoryStatus :: address :: size :: pieces) ∧
    WritesNumber address.toList dump.start ∧ WritesNumber size.toList dump.size ∧
    SameDigits ((pieces ++ block.payload.map trimOf).flatMap String.toList)
      (dump.bytes.flatMap fun byte => digits 2 byte.toNat)

/-- Bytes inside the address space that were told are read. -/
theorem memory_of_writes (h : WritesMemory block dump) (hstart : dump.start ≤ maxAddress)
    (hstop : dump.stop ≤ maxAddress + 1) : memory block = .ok dump := by
  obtain ⟨address, size, pieces, htag, haddress, hsize, hdigits⟩ := h
  have hbounds : dump.start < wordBound ∧ dump.size < wordBound := by
    unfold MemoryDump.stop maxAddress at hstop
    unfold maxAddress at hstart
    unfold wordBound
    omega
  have hfields : HasMemoryFields block address size dump.start pieces :=
    ⟨kind_of_hasTag htag, tagFields_of_hasTag htag, number_of_writes haddress hbounds.1 _, _,
      number_of_writes hsize hbounds.2 _⟩
  refine memory_of_bytes hfields ?_ hstart hstop
  unfold memoryPayload
  rw [String.toList_join]
  exact bytes?_of_sameDigits hdigits

/-- Whether a line holds a piece of text, with blanks around it or none. -/
def Surrounds (line : String) (piece : List Char) : Prop :=
  ∃ lead trail, line.toList = lead ++ (piece ++ trail) ∧ IsBlankText lead ∧ IsBlankText trail

/-- Whether a block writes a dump. The tag line tells where it starts and any number for its size;
the digits of the bytes, each in either case, are cut anywhere into the pieces behind them and the
payload lines. -/
def WritesDump (block : Block) (dump : MemoryDump) : Prop :=
  ∃ address size count pieces cuts,
    HasTag block .memory (memoryStatus :: address :: size :: pieces) ∧
    WritesNumber address.toList dump.start ∧ number "size" size = .ok count ∧
    List.Forall₂ Surrounds block.payload cuts ∧
    SameDigits (pieces.flatMap String.toList ++ cuts.flatten)
      (dump.bytes.flatMap fun byte => digits 2 byte.toNat)

theorem trim_of_surrounds {line : String} {piece : List Char} (h : Surrounds line piece)
    (hpiece : HasNoBlank piece) : trim line.toList = piece := by
  obtain ⟨lead, trail, hline, hlead, htrail⟩ := h
  rw [hline]
  cases piece with
  | nil =>
    have hblank : IsBlankText (lead ++ trail) := List.forall_mem_append.mpr ⟨hlead, htrail⟩
    have htrim := trim_blanks_append hblank []
    rwa [List.append_nil] at htrim
  | cons c rest => exact trim_blanks hlead hpiece.isTrimmed (List.cons_ne_nil c rest) htrail

/-- Pieces without blanks are what is left of the lines that hold them. -/
theorem flatMap_trimOf {lines : List String} {cuts : List (List Char)}
    (h : List.Forall₂ Surrounds lines cuts) (hcuts : ∀ piece ∈ cuts, HasNoBlank piece) :
    (lines.map trimOf).flatMap String.toList = cuts.flatten := by
  induction h with
  | nil => rfl
  | cons hline _ ih =>
    obtain ⟨hfirst, hrest⟩ := List.forall_mem_cons.mp hcuts
    rw [List.map_cons, List.flatMap_cons, List.flatten_cons, ih hrest, trimOf,
      String.toList_ofList, trim_of_surrounds hline hfirst]

/-- A dump inside the address space that was written is read. -/
theorem memory_of_writesDump (h : WritesDump block dump) (hstart : dump.start ≤ maxAddress)
    (hstop : dump.stop ≤ maxAddress + 1) : memory block = .ok dump := by
  obtain ⟨address, size, count, pieces, cuts, htag, haddress, hcount, hlines, hdigits⟩ := h
  have hbound : dump.start < wordBound := by
    unfold maxAddress at hstart
    unfold wordBound
    omega
  have hfields : HasMemoryFields block address size dump.start pieces :=
    ⟨kind_of_hasTag htag, tagFields_of_hasTag htag, number_of_writes haddress hbound _, count,
      hcount⟩
  have hbytedigits : ∀ c ∈ dump.bytes.flatMap fun byte => digits 2 byte.toNat, IsLower c := by
    intro c hc
    obtain ⟨byte, -, hc⟩ := List.mem_flatMap.mp hc
    exact isLower_of_mem_digits c hc
  have hcuts : ∀ piece ∈ cuts, HasNoBlank piece := by
    intro piece hpiece c hc
    refine isBlank_of_isHexDigit (isDigit_of_sameDigits hdigits hbytedigits c ?_)
    exact List.mem_append_right _ (List.mem_flatten.mpr ⟨piece, hpiece, hc⟩)
  have hpayload : (memoryPayload pieces block).toList =
      pieces.flatMap String.toList ++ cuts.flatten := by
    unfold memoryPayload
    rw [String.toList_join, List.flatMap_append, flatMap_trimOf hlines hcuts]
  refine memory_of_bytes hfields ?_ hstart hstop
  rw [hpayload]
  exact bytes?_of_sameDigits hdigits

/-! ## Layouts -/

/-- The characters of a payload in order, wherever they stand: in the pieces of the tag line or on
the payload lines. -/
def payloadCharacters (pieces : List String) (block : Block) : List Char :=
  ((pieces ++ block.payload).flatMap String.toList).filter fun c => !isBlank c

/-- Whether a payload line has a gap: a blank that is not at either of its ends. -/
def HasGap (block : Block) : Prop :=
  ∃ line ∈ block.payload, ¬HasNoBlank (trim line.toList)

instance (block : Block) : Decidable (HasGap block) :=
  inferInstanceAs (Decidable (∃ line ∈ block.payload, _))

theorem filter_memoryPayload (pieces : List String) (block : Block) :
    (memoryPayload pieces block).toList.filter (fun c => !isBlank c) =
      payloadCharacters pieces block := by
  unfold memoryPayload payloadCharacters
  rw [String.toList_join, List.flatMap_append, List.flatMap_append, List.filter_append,
    List.filter_append]
  congr 1
  induction block.payload with
  | nil => rfl
  | cons line rest ih =>
    rw [List.map_cons, List.flatMap_cons, List.flatMap_cons, List.filter_append,
      List.filter_append, ih]
    unfold trimOf
    rw [String.toList_ofList, filter_trim]

/-- The pieces on the tag line have no blanks in them, so a blank in the payload is a gap. -/
theorem hasNoBlank_memoryPayload_iff (h : HasMemoryFields block address size start pieces) :
    HasNoBlank (memoryPayload pieces block).toList ↔ ¬HasGap block := by
  unfold memoryPayload HasGap HasNoBlank
  rw [String.toList_join]
  simp only [not_exists, not_and, not_not]
  have hpieces : ∀ piece ∈ pieces, HasNoBlank piece.toList := by
    intro piece hpiece
    have hfield : piece ∈ block.tagFields := by
      rw [h.fields]
      exact List.mem_cons_of_mem _ (List.mem_cons_of_mem _ (List.mem_cons_of_mem _ hpiece))
    obtain ⟨word, hword, rfl⟩ := List.mem_map.mp (List.mem_of_mem_drop hfield)
    rw [String.toList_ofList]
    exact (isWord_of_mem_words hword).1
  constructor
  · intro hnone line hline c hc
    refine hnone c (List.mem_flatMap.mpr ⟨trimOf line, ?_, ?_⟩)
    · exact List.mem_append_right _ (List.mem_map_of_mem hline)
    · rwa [trimOf, String.toList_ofList]
  · intro hlines c hc
    obtain ⟨piece, hpiece, hc⟩ := List.mem_flatMap.mp hc
    rcases List.mem_append.mp hpiece with hpiece | hpiece
    · exact hpieces piece hpiece c hc
    · obtain ⟨line, hline, rfl⟩ := List.mem_map.mp hpiece
      rw [trimOf, String.toList_ofList] at hc
      exact hlines line hline c hc

/-- Without a gap it does not matter where the characters stand. -/
theorem toOption_memory_of_no_gap (h : HasMemoryFields block address size start pieces)
    (hgap : ¬HasGap block) :
    (memory block).toOption = dumpOf? start (payloadCharacters pieces block) := by
  have hnone : ∀ c ∈ (memoryPayload pieces block).toList, (!isBlank c) = true := by
    intro c hc
    rw [(hasNoBlank_memoryPayload_iff h).mpr hgap c hc, Bool.not_false]
  rw [toOption_memory h, ← filter_memoryPayload, List.filter_eq_self.mpr hnone]

/-- With a gap nothing is read. -/
theorem toOption_memory_of_gap (h : HasMemoryFields block address size start pieces)
    (hgap : HasGap block) : (memory block).toOption = none := by
  rw [toOption_memory h, Option.eq_none_iff_forall_ne_some]
  intro dump hdump
  obtain ⟨-, hbytes, -⟩ := dumpOf?_eq_some_iff.mp hdump
  refine (hasNoBlank_memoryPayload_iff h).mp (fun c hc => ?_) hgap
  exact isBlank_of_isHexDigit (isDigit_of_bytes? hbytes c hc)

/-- Two blocks with the same first fields and the same payload, but for the places of the blanks and
of the ends of the lines in it, are read alike exactly if a payload line with a gap stands in both
of them or in neither, or if the payload writes no bytes of the address space in any layout. -/
theorem layout_makes_no_difference_iff
    (h : HasMemoryFields block address size start pieces)
    (hother : HasMemoryFields other address size start others)
    (hsame : payloadCharacters pieces block = payloadCharacters others other) :
    (memory block).toOption = (memory other).toOption ↔
      dumpOf? start (payloadCharacters pieces block) = none ∨ (HasGap block ↔ HasGap other) := by
  by_cases hgap : HasGap block <;> by_cases hothergap : HasGap other
  · rw [toOption_memory_of_gap h hgap, toOption_memory_of_gap hother hothergap]
    simp [hgap, hothergap]
  · rw [toOption_memory_of_gap h hgap, toOption_memory_of_no_gap hother hothergap, ← hsame]
    simp [hgap, hothergap, eq_comm]
  · rw [toOption_memory_of_no_gap h hgap, toOption_memory_of_gap hother hothergap]
    simp [hgap, hothergap]
  · rw [toOption_memory_of_no_gap h hgap, toOption_memory_of_no_gap hother hothergap, hsame]
    simp [hgap, hothergap]

/-- A byte whose digits stand on the tag line and on a payload line is read. -/
theorem cut_bytes_are_read :
    let block : Block := { tagLine := "#mem OK 001000 000002 0", payload := ["1 ", "\t02"] }
    let other : Block := { tagLine := "#mem OK 001000 000002 01 02" }
    HasMemoryFields block "001000" "000002" 0x1000 ["0"] ∧
      HasMemoryFields other "001000" "000002" 0x1000 ["01", "02"] ∧
      payloadCharacters ["0"] block = payloadCharacters ["01", "02"] other ∧
      (memory block).toOption = (memory other).toOption := by
  intro block other
  have hblock : HasMemoryFields block "001000" "000002" 0x1000 ["0"] :=
    ⟨by decide, by decide, by decide, 2, by decide⟩
  have hother : HasMemoryFields other "001000" "000002" 0x1000 ["01", "02"] :=
    ⟨by decide, by decide, by decide, 2, by decide⟩
  have hsame : payloadCharacters ["0"] block = payloadCharacters ["01", "02"] other := by decide
  have hnogaps : HasGap block ↔ HasGap other := by decide
  exact ⟨hblock, hother, hsame,
    (layout_makes_no_difference_iff hblock hother hsame).mpr (.inr hnogaps)⟩

/-- The same bytes with a blank between them are read on the tag line and refused behind it. -/
theorem gap_makes_a_difference :
    let block : Block := { tagLine := "#mem OK 001000 000002", payload := ["01 02"] }
    let other : Block := { tagLine := "#mem OK 001000 000002 01 02" }
    HasMemoryFields block "001000" "000002" 0x1000 [] ∧
      HasMemoryFields other "001000" "000002" 0x1000 ["01", "02"] ∧
      payloadCharacters [] block = payloadCharacters ["01", "02"] other ∧
      memory block = .error (.invalidHex "payload" "01 02") ∧
      memory other = .ok { start := 0x1000, bytes := [1, 2] } := by
  intro block other
  refine ⟨⟨?_, ?_, ?_, 2, ?_⟩, ⟨?_, ?_, ?_, 2, ?_⟩, ?_, ?_, ?_⟩ <;> decide

end RemoteDebug.Decode
