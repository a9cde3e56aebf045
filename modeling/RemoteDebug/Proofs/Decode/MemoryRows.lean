import RemoteDebug.Proofs.Decode.MemoryPayloads

/-!
# Rows of memory

Sixteen bytes make a row, and only the last row may have fewer. A row is where it should be
(`getElem?_rowsFrom`), there are as many as the bytes fill (`length_rowsFrom`), and none of the
bytes is lost (`flatMap_rowsFrom`). The text of a row tells its address and its bytes: the words
behind the bar are the bytes, with two digits each (`bytes?_shownBytes`). Inside the address space
nothing overflows where addresses are words of 32 bits (`toNat_stopWord`, `toNat_rowWord`).
-/

namespace RemoteDebug.Decode.MemoryDump

open RemoteDebug.Text RemoteDebug.Hex

/-! ## Cutting bytes into rows -/

theorem length_rowsFrom (address : Nat) (bytes : List UInt8) :
    (rowsFrom address bytes).length = (bytes.length + 15) / 16 := by
  fun_induction rowsFrom address bytes with
  | case1 => rfl
  | case2 address byte rest ih =>
    rw [List.length_cons, ih, List.length_drop, List.length_cons, memoryRowWidth]
    omega

/-- A row starts as many times sixteen addresses behind the start as there are rows before it, and
holds the sixteen bytes from there on, as far as there are any. -/
theorem getElem?_rowsFrom {address index : Nat} {bytes : List UInt8} {row : Nat × List UInt8}
    (h : (rowsFrom address bytes)[index]? = some row) :
    row.1 = address + memoryRowWidth * index ∧
      row.2 = (bytes.drop (memoryRowWidth * index)).take memoryRowWidth ∧
      memoryRowWidth * index < bytes.length := by
  fun_induction rowsFrom address bytes generalizing index with
  | case1 => cases h
  | case2 address byte rest ih =>
    cases index with
    | zero =>
      rw [List.getElem?_cons_zero, Option.some.injEq] at h
      subst h
      exact ⟨rfl, rfl, Nat.succ_pos _⟩
    | succ index =>
      rw [List.getElem?_cons_succ] at h
      obtain ⟨haddress, hbytes, hlength⟩ := ih h
      rw [List.length_drop] at hlength
      rw [List.drop_drop] at hbytes
      refine ⟨?_, ?_, ?_⟩
      · rw [haddress, Nat.mul_succ]
        omega
      · rw [hbytes, Nat.mul_succ, Nat.add_comm]
      · rw [Nat.mul_succ]
        omega

theorem flatMap_rowsFrom (address : Nat) (bytes : List UInt8) :
    (rowsFrom address bytes).flatMap Prod.snd = bytes := by
  fun_induction rowsFrom address bytes with
  | case1 => rfl
  | case2 address byte rest ih => rw [List.flatMap_cons, ih, List.take_append_drop]

/-! ## Words of 32 bits -/

variable {dump : MemoryDump}

/-- The address behind the last byte, computed in words of 32 bits. -/
def stopWord (dump : MemoryDump) : UInt32 :=
  .ofNat dump.start + .ofNat dump.size

/-- The address of a row, computed in words of 32 bits. -/
def rowWord (dump : MemoryDump) (index : Nat) : UInt32 :=
  .ofNat dump.start + .ofNat index * .ofNat memoryRowWidth

theorem toNat_stopWord (h : dump.stop ≤ maxAddress + 1) : dump.stopWord.toNat = dump.stop := by
  unfold stop maxAddress at h
  unfold stopWord stop
  rw [UInt32.toNat_add, UInt32.toNat_ofNat', UInt32.toNat_ofNat']
  omega

theorem toNat_rowWord {index : Nat} (h : dump.start + memoryRowWidth * index ≤ maxAddress) :
    (dump.rowWord index).toNat = dump.start + memoryRowWidth * index := by
  unfold maxAddress memoryRowWidth at h
  unfold rowWord memoryRowWidth
  rw [UInt32.toNat_add, UInt32.toNat_mul, UInt32.toNat_ofNat', UInt32.toNat_ofNat',
    UInt32.toNat_ofNat']
  omega

/-! ## Texts of rows -/

/-- The words of a row's text behind its address and the bar. -/
def shownBytes (text : String) : List String :=
  (wordsOf text).drop 2

theorem isWord_digits (width value : Nat) : IsWord (digits width value) :=
  ⟨fun _ hc => isBlank_of_isHexDigit (isDigit_of_mem_digits hc), digits_ne_nil width value⟩

theorem toList_rowBytes (row : Nat × List UInt8) :
    (rowBytes row).toList = [' '].intercalate (row.2.map fun byte => digits 2 byte.toNat) := by
  unfold rowBytes lower
  rw [String.toList_intercalate, List.map_map]
  exact congrArg [' '].intercalate (List.map_congr_left fun _ _ => String.toList_ofList)

theorem toList_rowText (row : Nat × List UInt8) :
    (rowText row).toList = digits 6 row.1 ++ ' ' :: '|' :: ' ' :: (rowBytes row).toList := by
  unfold rowText rowAddress lower
  simp

/-- The words of a row's text are its address, the bar and its bytes. -/
theorem words_rowText (row : Nat × List UInt8) :
    words (rowText row).toList =
      digits 6 row.1 :: ['|'] :: row.2.map fun byte => digits 2 byte.toNat := by
  have hbytes : ∀ token ∈ row.2.map fun byte => digits 2 byte.toNat, IsWord token := by
    intro token htoken
    obtain ⟨byte, -, rfl⟩ := List.mem_map.mp htoken
    exact isWord_digits 2 byte.toNat
  have haddress := isWord_digits 6 row.1
  have hbar : words ('|' :: ' ' :: (rowBytes row).toList) =
      ['|'] :: row.2.map fun byte => digits 2 byte.toNat := by
    rw [toList_rowBytes, ← List.singleton_append, words_append_cons_blank rfl,
      words_of_hasNoBlank (by decide) (List.cons_ne_nil _ _), words_intercalate hbytes,
      List.singleton_append]
  rw [toList_rowText, words_append_cons_blank rfl, words_of_hasNoBlank haddress.1 haddress.2, hbar,
    List.singleton_append]

theorem shownBytes_rowText (row : Nat × List UInt8) :
    shownBytes (rowText row) = row.2.map fun byte => lower 2 byte.toNat := by
  unfold shownBytes wordsOf
  rw [words_rowText, List.map_cons, List.map_cons, List.drop_succ_cons, List.drop_succ_cons,
    List.drop_zero, List.map_map]
  rfl

theorem flatMap_shownBytes (rows : List (Nat × List UInt8)) :
    (rows.map rowText).flatMap shownBytes =
      (rows.flatMap Prod.snd).map fun byte => lower 2 byte.toNat := by
  induction rows with
  | nil => rfl
  | cons row rest ih =>
    rw [List.map_cons, List.flatMap_cons, List.flatMap_cons, List.map_append, ih,
      shownBytes_rowText]

/-- There are only digits, blanks and the bar in a row's text. -/
theorem isDigit_of_mem_rowText {row : Nat × List UInt8} {c : Char} (h : c ∈ (rowText row).toList) :
    isBlank c = true ∨ c = '|' ∨ isDigit c = true := by
  cases hc : isBlank c with
  | true => exact .inl rfl
  | false =>
    have hword : c ∈ (words (rowText row).toList).flatten := by
      rw [flatten_words]
      exact List.mem_filter.mpr ⟨h, by rw [hc, Bool.not_false]⟩
    rw [words_rowText, List.flatten_cons, List.flatten_cons] at hword
    rcases List.mem_append.mp hword with hdigit | hword
    · exact .inr (.inr (isDigit_of_mem_digits hdigit))
    rcases List.mem_append.mp hword with hbar | hword
    · exact .inr (.inl (List.mem_singleton.mp hbar))
    · obtain ⟨_, htoken, hdigit⟩ := List.mem_flatten.mp hword
      obtain ⟨byte, -, rfl⟩ := List.mem_map.mp htoken
      exact .inr (.inr (isDigit_of_mem_digits hdigit))

/-- A word behind the bar has two digits. -/
theorem length_of_mem_shownBytes {row : Nat × List UInt8} {word : String}
    (h : word ∈ shownBytes (rowText row)) : word.length = 2 := by
  rw [shownBytes_rowText] at h
  obtain ⟨byte, -, rfl⟩ := List.mem_map.mp h
  unfold lower
  rw [String.length_ofList]
  exact length_digits (by decide) byte.toNat_lt

/-- Read together, they are the bytes. -/
theorem bytes?_shownBytes {bytes : List UInt8} {words : List String}
    (h : words = bytes.map fun byte => lower 2 byte.toNat) :
    bytes? (words.flatMap String.toList) = some bytes := by
  have hdigits : words.flatMap String.toList = bytes.flatMap fun byte => digits 2 byte.toNat := by
    rw [h, List.flatMap_map]
    exact List.flatMap_congr fun _ _ => String.toList_ofList
  rw [hdigits]
  exact bytes?_of_sameDigits (List.forall₂_same.mpr fun _ _ => .inl rfl)

end RemoteDebug.Decode.MemoryDump
