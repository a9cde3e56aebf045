import RemoteDebug.Channel.Reading
import RemoteDebug.Wire.Block
import RemoteDebug.Proofs.Text.Words

/-!
# What a line is

Stop markers, block ends and echoes are told apart by the start of a line, up to blanks at its end.
The splitter looks at a line without its line ends and the reader at a line without its blanks;
the facts here say that the two agree: a stop marker is no block end (`isEnd_of_isStopMarker`), an
echo is a tag line and neither of the others (`isTag_of_isEcho`), and a reader that waits for an
echo keeps the lines that are no echo of a token (`sight_eq_ordinary_iff`).
-/

namespace RemoteDebug.Wire

open RemoteDebug.Text

/-- A line that opens no block closes none either. -/
theorem Splitter.isEnd_of_not_isTag {line : String} (h : isTag line = false) :
    isEnd line = false := by
  rw [Bool.eq_false_iff]
  intro hend
  obtain ⟨rest, hrest⟩ := List.isPrefixOf_iff_prefix.mp hend
  unfold isTag at h
  rw [← hrest] at h
  cases h

theorem Splitter.isTag_eq_false_iff {line : String} :
    isTag line = false ↔ line.toList.head? ≠ some '#' := by
  unfold isTag
  cases line.toList with
  | nil => simp [List.isPrefixOf]
  | cons c rest =>
    rw [List.head?_cons, ne_eq, Option.some_inj, eq_comm (a := c)]
    simp [List.isPrefixOf]

/-! ## Stop markers -/

/-- Line ends make no difference to a stop marker. -/
@[simp] theorem isStopMarker_chomp (line : String) :
    isStopMarker (chompOf line) = isStopMarker line := by
  unfold isStopMarker
  rw [trimEnd_chomp]

/-- The text of a stop marker is one of the two spellings. -/
theorem trimEnd_of_isStopMarker {line : String} (h : isStopMarker line = true) :
    trimEnd line.toList = stopMarker.toList ∨ trimEnd line.toList = legacyStopMarker.toList := by
  simp only [isStopMarker, trimEndOf, Bool.or_eq_true, beq_iff_eq] at h
  rcases h with h | h
  · exact .inl (by rw [← h, String.toList_ofList])
  · exact .inr (by rw [← h, String.toList_ofList])

/-- A stop marker closes no block. -/
theorem isEnd_of_isStopMarker {line : String} (h : isStopMarker line = true) :
    Splitter.isEnd (chompOf line) = false := by
  rw [← isStopMarker_chomp] at h
  have htext := trimEnd_of_isStopMarker h
  rw [Bool.eq_false_iff]
  intro hend
  obtain ⟨rest, hrest⟩ := List.isPrefixOf_iff_prefix.mp hend
  rw [← hrest, show ['#', '#'] ++ rest = ['#'] ++ '#' :: rest from rfl, trimEnd,
    dropEndWhile_append_of_last isBlank ['#'] rfl] at htext
  rcases htext with htext | htext <;> cases htext

/-- The block that a stop marker would open is of no kind that a view or the status has. -/
theorem kind_of_isStopMarker {line : String} (h : isStopMarker line = true)
    (htag : Splitter.isTag line = true) :
    ({ tagLine := line } : Block).kind = .unknown "break" := by
  obtain ⟨blanks, hline, hblanks⟩ := exists_eq_dropEndWhile_append isBlank line.toList
  rw [← trimEnd] at hline
  unfold Splitter.isTag at htag
  rcases trimEnd_of_isStopMarker h with htext | htext
  · -- the other spelling does not start like a tag line
    rw [hline, htext] at htag
    cases htag
  · have hword : HasNoBlank ['b', 'r', 'e', 'a', 'k'] := by decide
    have hwords := words_append hword (List.cons_ne_nil _ _) (IsBlankText.startsBlank hblanks)
    have hmarks : (legacyStopMarker.toList ++ blanks).dropWhile (· == '#') =
        ['b', 'r', 'e', 'a', 'k'] ++ blanks := rfl
    unfold Block.kind
    rw [hline, htext, hmarks, hwords]
    rfl

/-! ## Echoes -/

/-- Whether a line is the echo of some token. -/
def isEcho (line : String) : Bool :=
  (echoStart ++ tokenStart).toList.isPrefixOf (trimEnd line.toList)

/-- The start of an echo stands at the start of the line itself. -/
theorem toList_of_isEcho {line : String} (h : isEcho line = true) :
    ∃ rest, line.toList = (echoStart ++ tokenStart).toList ++ rest := by
  obtain ⟨rest, hrest⟩ := List.isPrefixOf_iff_prefix.mp h
  obtain ⟨blanks, hline, -⟩ := exists_eq_dropEndWhile_append isBlank line.toList
  rw [← trimEnd, ← hrest, List.append_assoc] at hline
  exact ⟨rest ++ blanks, hline⟩

/-- Line ends are no part of the start of an echo. -/
theorem toList_chomp_of_isEcho {line : String} (h : isEcho line = true) :
    ∃ rest, (chompOf line).toList = '#' :: (['e', 'c', 'h', 'o'] ++ ' ' :: rest) := by
  obtain ⟨rest, hrest⟩ := toList_of_isEcho h
  refine ⟨"sync".toList ++ '-' :: dropEndWhile isLineEnd rest, ?_⟩
  unfold chompOf
  rw [String.toList_ofList, hrest]
  exact dropEndWhile_append_of_last isLineEnd "#echo sync".toList rfl rest

/-- An echo opens a block, as far as the splitter can tell. -/
theorem isTag_of_isEcho {line : String} (h : isEcho line = true) :
    Splitter.isTag (chompOf line) = true ∧ Splitter.isEnd (chompOf line) = false := by
  obtain ⟨rest, hrest⟩ := toList_chomp_of_isEcho h
  unfold Splitter.isTag Splitter.isEnd
  rw [hrest]
  exact ⟨rfl, rfl⟩

/-- The block that an echo seems to open is of no kind that a view or the status has. -/
theorem kind_of_isEcho {line : String} (h : isEcho line = true) :
    ({ tagLine := chompOf line } : Block).kind = .unknown "echo" := by
  obtain ⟨rest, hrest⟩ := toList_chomp_of_isEcho h
  have hword : HasNoBlank ['e', 'c', 'h', 'o'] := by decide
  have hblank : StartsBlank (' ' :: rest) := by
    rintro _ ⟨⟩
    rfl
  have hmarks : ('#' :: (['e', 'c', 'h', 'o'] ++ ' ' :: rest)).dropWhile (· == '#') =
      ['e', 'c', 'h', 'o'] ++ ' ' :: rest := rfl
  unfold Block.kind
  rw [hrest, hmarks, words_append hword (List.cons_ne_nil _ _) hblank]
  rfl

/-- An echo is no stop marker. -/
theorem isStopMarker_of_isEcho {line : String} (h : isEcho line = true) :
    isStopMarker line = false := by
  rw [Bool.eq_false_iff]
  intro hmarker
  obtain ⟨rest, hrest⟩ := List.isPrefixOf_iff_prefix.mp h
  rcases trimEnd_of_isStopMarker hmarker with htext | htext <;>
    · rw [htext] at hrest
      cases hrest

/-- The text of a token's echo starts like every echo. -/
theorem echoStart_prefix_replyLine (token : SyncToken) :
    (echoStart ++ tokenStart).toList <+: token.replyLine.toList := by
  refine ⟨(toString token.number).toList, ?_⟩
  simp [SyncToken.replyLine, SyncToken.text]

/-- An echo is the echo of the token or a stale one, and nothing else is either. -/
theorem isReply_or_isStaleReply_iff (token : SyncToken) (line : String) :
    (token.isReply line || token.isStaleReply line) = isEcho line := by
  unfold SyncToken.isReply SyncToken.isStaleReply isEcho trimEndOf
  cases heq : String.ofList (trimEnd line.toList) == token.replyLine with
  | true =>
    have hstart := echoStart_prefix_replyLine token
    rw [← beq_iff_eq.mp heq, String.toList_ofList] at hstart
    rw [List.isPrefixOf_iff_prefix.mpr hstart]
    rfl
  | false => simp only [bne, heq, Bool.false_or, Bool.not_false, Bool.and_true]

/-- The line by which a token is echoed is recognized. -/
theorem isReply_replyLine (token : SyncToken) : token.isReply token.replyLine = true := by
  have htext : token.replyLine.toList =
      "#echo sync".toList ++ '-' :: Nat.toDigits 10 token.number := by
    simp [SyncToken.replyLine, SyncToken.text, echoStart, tokenStart, Nat.toList_repr]
  have hkept : trimEnd token.replyLine.toList = token.replyLine.toList := by
    rw [htext]
    unfold trimEnd
    rw [dropEndWhile_append_of_last isBlank "#echo sync".toList rfl]
    -- the last character is a digit, or the one before the digits
    rcases List.eq_nil_or_concat (Nat.toDigits 10 token.number) with hdigits | ⟨front, c, hdigits⟩
    · rw [hdigits]
      rfl
    · have hmem : c ∈ Nat.toDigits 10 token.number := by simp [hdigits]
      have hdigit : c.isDigit = true :=
        Nat.isDigit_of_mem_toDigits (by decide) (by decide) hmem
      rw [hdigits, List.concat_eq_append,
        dropEndWhile_append_of_last isBlank front (isBlank_of_isDigit c hdigit)]
      rfl
  unfold SyncToken.isReply trimEndOf
  rw [hkept, String.ofList_toList, beq_self_eq_true]

/-- A line echoes one token at most. -/
theorem eq_of_isReply {token other : SyncToken} {line : String} (h : token.isReply line = true)
    (hother : other.isReply line = true) : token = other := by
  simp only [SyncToken.isReply, beq_iff_eq] at h hother
  -- both are the text of the line, so the numbers have the same digits
  have htext : token.replyLine.toList = other.replyLine.toList := by rw [← h, ← hother]
  have hdigits : (Nat.repr token.number).toList = (Nat.repr other.number).toList := by
    simpa [SyncToken.replyLine, SyncToken.text] using htext
  rw [Nat.toList_repr, Nat.toList_repr] at hdigits
  have hnumber := congrArg (Nat.ofDigitChars 10 · 0) hdigits
  simp only [Nat.ofDigitChars_ten_toDigits] at hnumber
  exact congrArg SyncToken.mk hnumber

/-- The echo of a token is an echo. -/
theorem isEcho_of_isReply {token : SyncToken} {line : String} (h : token.isReply line = true) :
    isEcho line = true := by
  rw [← isReply_or_isStaleReply_iff token, h, Bool.true_or]

end RemoteDebug.Wire

namespace RemoteDebug.Awaited

open RemoteDebug.Wire

/-- A reader that waits for an echo keeps the lines that echo no token. -/
theorem sight_eq_ordinary_iff (token : SyncToken) (line : String) :
    (echo token).sight line = .ordinary ↔ isEcho line = false := by
  rw [← isReply_or_isStaleReply_iff token line]
  cases hreply : token.isReply line <;> cases hstale : token.isStaleReply line <;>
    simp [sight, hreply, hstale]

/-- The lines that it keeps are those that echo no token. -/
theorem filter_ordinary (token : SyncToken) (lines : List String) :
    lines.filter ((echo token).sight · = .ordinary) = lines.filter fun line => !isEcho line := by
  refine List.filter_congr fun line _ => ?_
  rw [Bool.eq_iff_iff, decide_eq_true_eq, sight_eq_ordinary_iff, Bool.not_eq_true']

theorem sight_echo_eq_arrived_iff (token : SyncToken) (line : String) :
    (echo token).sight line = .arrived ↔ token.isReply line = true := by
  cases hreply : token.isReply line <;> cases hstale : token.isStaleReply line <;>
    simp [sight, hreply, hstale]

theorem sight_stop_eq_arrived_iff (line : String) :
    stop.sight line = .arrived ↔ isStopMarker line = true := by
  cases hmarker : isStopMarker line <;> simp [sight, hmarker]

end RemoteDebug.Awaited
