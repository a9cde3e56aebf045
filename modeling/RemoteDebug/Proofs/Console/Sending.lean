import RemoteDebug.Proofs.Command.Spelling
import RemoteDebug.Proofs.Console.Running
import RemoteDebug.Proofs.Interleaving.Conversations
import RemoteDebug.Simulator.Machine

/-!
# What a typed command sends

A file is loaded, memory is saved and a text is sent as it is by a single request. Between what the
user typed and the line that the target receives stand the grammar of commands, the console and the
wording of requests; `typed_is_sent` says that they lose nothing.
-/

namespace RemoteDebug

open RemoteDebug.Text RemoteDebug.Wire

/-! ## What a request says -/

namespace Command

/-- The request that a command makes of the target if it makes a single one, whatever is known of
the target. -/
def request? : Command → Option Request
  | load path (some address) => some (.load path address)
  | save path address length => some (.save path address length)
  | raw text => some (.raw text)
  | _ => none

/-- Whether a word is a number as it is sent: its digits are of lower case and at least six, and
they read back as the number. -/
def IsSentNumber (value : Nat) (word : List Char) : Prop :=
  ∃ digits, word = '$' :: digits ∧ 6 ≤ digits.length ∧ (∀ c ∈ digits, Hex.IsLower c) ∧
    Hex.read? digits = some value

/-- Whether a line that is sent says what a command says, as it was typed. The words of the line are
those of the command, with spaces between them; or the line is what was to be sent, without the
blanks around it. -/
inductive IsSentAs : Command → List Char → List Char → Prop
  | load {path : String} {address : Nat} {typed line number : List Char}
    (hwords : words line = ["load".toList, path.toList, number])
    (haddress : IsSentNumber address number) (hspaces : ∀ c ∈ line, isBlank c = true → c = ' ') :
    IsSentAs (.load path (some address)) typed line
  | save {path : String} {address length : Nat} {typed line start extent : List Char}
    (hwords : words line = ["save".toList, path.toList, start, extent])
    (haddress : IsSentNumber address start) (hlength : IsSentNumber length extent)
    (hspaces : ∀ c ∈ line, isBlank c = true → c = ' ') :
    IsSentAs (.save path address length) typed line
  | raw {text : String} {typed rest : List Char}
    (htyped : typed = rawShort.toList ++ rest ∨ trimStart typed = rawWord.toList ++ rest) :
    IsSentAs (.raw text) typed (trim rest)

theorem isSentNumber_number (value : Nat) : IsSentNumber value (Request.number value).toList := by
  refine ⟨Hex.digits 6 value, ?_, ?_, Hex.isLower_of_mem_digits, ?_⟩
  · simp [Request.number, Hex.lower]
  · rw [Hex.digits, List.leftpad, List.length_append, List.length_replicate]
    omega
  · have hsame : Hex.SameDigits (Hex.digits 6 value) (Hex.digits 6 value) :=
      List.forall₂_same.mpr fun _ _ => .inl rfl
    exact Hex.read?_of_sameDigits hsame

theorem IsSentNumber.isWord {value : Nat} {word : List Char} (h : IsSentNumber value word) :
    IsWord word := by
  obtain ⟨digits, rfl, -, -, hvalue⟩ := h
  refine ⟨List.forall_mem_cons.mpr ⟨rfl, fun c hc => ?_⟩, List.cons_ne_nil _ _⟩
  exact Decode.isBlank_of_isHexDigit ((Hex.isDigit_of_read? hvalue).2 c hc)

/-- A number that is sent says which one it is. -/
theorem IsSentNumber.eq {value other : Nat} {word : List Char} (h : IsSentNumber value word)
    (hother : IsSentNumber other word) : value = other := by
  obtain ⟨digits, rfl, -, -, hvalue⟩ := h
  obtain ⟨digits', hword, -, -, hother⟩ := hother
  cases hword
  exact Option.some.inj (hvalue.symm.trans hother)

/-- Words with a space before each but the first are the words of the line, and the spaces are its
only blanks. -/
theorem words_of_spaced {first : List Char} (hfirst : IsWord first) {others : List (List Char)}
    (hothers : ∀ word ∈ others, IsWord word) :
    words (first ++ others.flatMap (' ' :: ·)) = first :: others ∧
      ∀ c ∈ first ++ others.flatMap (' ' :: ·), isBlank c = true → c = ' ' := by
  induction others generalizing first with
  | nil =>
    rw [List.flatMap_nil, List.append_nil]
    refine ⟨words_of_hasNoBlank hfirst.1 hfirst.2, fun c hc hblank => ?_⟩
    rw [hfirst.1 c hc] at hblank
    cases hblank
  | cons next rest ih =>
    obtain ⟨hnext, hrest⟩ := List.forall_mem_cons.mp hothers
    obtain ⟨hwords, hspaces⟩ := ih hnext hrest
    rw [List.flatMap_cons, List.cons_append]
    refine ⟨?_, fun c hc hblank => ?_⟩
    · rw [words_append_cons_blank rfl, words_of_hasNoBlank hfirst.1 hfirst.2, hwords,
        List.singleton_append]
    · rcases List.mem_append.mp hc with hc | hc
      · rw [hfirst.1 c hc] at hblank
        cases hblank
      · rcases List.mem_cons.mp hc with rfl | hc
        · rfl
        · exact hspaces c hc hblank

theorem IsPathWord.isWord {path : String} {word : List Char} (h : IsPathWord path word) :
    IsWord path.toList :=
  h.1 ▸ h.2

theorem request?_of_isBare {command : Command} (h : command.isBare = true) :
    command.request? = none := by
  cases command <;> simp_all [isBare, request?]

theorem line_raw {text : String} {rest : List Char} (htext : trim rest = text.toList) :
    (Request.raw text).line.toList = trim rest := by
  unfold Request.line trimEndOf
  rw [String.toList_ofList, ← htext]
  exact dropEndWhile_dropEndWhile (fun _ h => h) (trimStart rest)

/-- The line of the request of a command that was typed says what the command says. -/
theorem isSentAs_of_isSpelled {command : Command} {request : Request} {typed : List Char}
    (h : command.IsSpelled typed) (hrequest : command.request? = some request) :
    command.IsSentAs typed request.line.toList := by
  cases h with
  | tokens _ _ harguments =>
    cases harguments with
    | bare hbare =>
      rw [request?_of_isBare hbare] at hrequest
      cases hrequest
    | @loadAt path address _ _ hpath _ =>
      cases hrequest
      have hothers : ∀ word ∈ [path.toList, (Request.number address).toList], IsWord word := by
        simp [hpath.isWord, (isSentNumber_number address).isWord]
      obtain ⟨hwords, hspaces⟩ := words_of_spaced (by decide : IsWord "load".toList) hothers
      have hline : (Request.load path address).line.toList = "load".toList ++
          [path.toList, (Request.number address).toList].flatMap (' ' :: ·) := by
        simp [Request.line]
      rw [← hline] at hwords hspaces
      exact .load hwords (isSentNumber_number address) hspaces
    | @save path address length _ _ _ hpath _ _ =>
      cases hrequest
      have hothers : ∀ word ∈ [path.toList, (Request.number address).toList,
          (Request.number length).toList], IsWord word := by
        simp [hpath.isWord, (isSentNumber_number address).isWord,
          (isSentNumber_number length).isWord]
      obtain ⟨hwords, hspaces⟩ := words_of_spaced (by decide : IsWord "save".toList) hothers
      have hline : (Request.save path address length).line.toList = "save".toList ++
          [path.toList, (Request.number address).toList, (Request.number length).toList].flatMap
            (' ' :: ·) := by
        simp [Request.line]
      rw [← hline] at hwords hspaces
      exact .save hwords (isSentNumber_number address) (isSentNumber_number length) hspaces
    | _ => cases hrequest
  | raw htext htold _ =>
    cases hrequest
    rw [line_raw htold]
    exact .raw (.inr htext)
  | rawShort htold _ =>
    cases hrequest
    rw [line_raw htold]
    exact .raw (.inl rfl)

/-- Commands that are not sent as they are and say different things are sent as different lines. -/
theorem eq_of_isSentAs {command other : Command} {typed otherTyped line : List Char}
    (h : command.IsSentAs typed line) (hother : other.IsSentAs otherTyped line)
    (hraw : ∀ text, command ≠ .raw text) (hotherRaw : ∀ text, other ≠ .raw text) :
    command = other := by
  cases h with
  | raw => exact absurd rfl (hraw _)
  | load hwords haddress _ =>
    cases hother with
    | raw => exact absurd rfl (hotherRaw _)
    | load hwords' haddress' _ =>
      rw [hwords] at hwords'
      obtain ⟨hpath, hnumber⟩ := List.cons.inj (List.cons.inj hwords').2
      cases hnumber
      rw [String.toList_inj.mp hpath, haddress.eq haddress']
    | save hwords' _ _ _ =>
      rw [hwords] at hwords'
      cases congrArg List.length hwords'
  | save hwords haddress hlength _ =>
    cases hother with
    | raw => exact absurd rfl (hotherRaw _)
    | load hwords' _ _ =>
      rw [hwords] at hwords'
      cases congrArg List.length hwords'
    | save hwords' haddress' hlength' _ =>
      rw [hwords] at hwords'
      obtain ⟨hpath, hnumbers⟩ := List.cons.inj (List.cons.inj hwords').2
      cases hnumbers
      rw [String.toList_inj.mp hpath, haddress.eq haddress', hlength.eq hlength']

end Command

/-! ## What is sent -/

section

variable {σ : Type} [Peer σ]

/-- A command that makes a single request is an exchange of it. -/
theorem Console.runIn_handle_of_request {command : Command} {request : Request}
    (h : command.request? = some request) (console : Console) (world : World σ) :
    ((Console.handle command).runIn console world).2 =
      (world.exchange console.session.settings.replyLimit [request]).2 := by
  cases command with
  | load path address =>
    cases address with
    | none => cases h
    | some address =>
      cases h
      unfold Console.handle
      rw [Console.Action.runIn_bind, Console.Action.runIn_perform, Operation.runIn_target]
      exact Console.Action.runIn_perform_ask _ console world
  | save path address length =>
    cases h
    exact Console.Action.runIn_perform_ask _ console world
  | raw text =>
    cases h
    exact Console.Action.runIn_perform_ask _ console world
  | _ => cases h

/-- An exchange sends its lines in order, up to the first that is refused. -/
theorem World.sent_of_exchange (world : World σ) (limit : Duration) (requests : List Request) :
    (world.exchange limit requests).2.channel.sent =
      (world.channel.sendAll (world.exchangeLines requests)).2.sent := by
  rw [← Channel.sent_of_converse _ _ (.echo world.nextToken) limit]
  rcases hreply : world.channel.converse (world.exchangeLines requests) (.echo world.nextToken)
    limit with ⟨_ | _, _⟩
  · rw [World.exchange_of_error hreply]
    rfl
  · rw [World.exchange_of_ok hreply, World.noticeStop_channel]
    rfl

/-- The first of some lines is sent unless it is refused. -/
theorem Channel.sendAll_cons_of_isOk {channel : Channel σ} {line : String} (rest : List String)
    (h : (channel.send line).1.isOk = true) : ∃ more,
      (channel.sendAll (line :: rest)).2.sent = channel.sent ++ line :: more := by
  obtain ⟨sent, hsent, -, hall⟩ := channel.sent_of_send line
  cases hall h
  rw [sendAll]
  rcases hsend : channel.send line with ⟨cause | _, after⟩
  · rw [hsend] at h
    cases h
  · obtain ⟨more, hmore, -⟩ := after.sent_of_sendAll rest
    rw [hsend] at hsent
    refine ⟨more, hmore.trans ?_⟩
    rw [hsent, List.append_assoc]
    rfl

/-- What the user typed is what the target receives. The request of an accepted line says what the
line says (`IsSentAs`), and apart from texts that are sent as they are, commands that differ are
sent as lines that differ. Carrying out the command sends the line of the request, unless the
channel refuses it, and behind it nothing but the request to echo a token. -/
theorem typed_is_sent {typed : String} {command : Command} {request : Request}
    (hparse : Command.parse typed = .ok command) (hrequest : command.request? = some request) :
    command.IsSentAs typed.toList request.line.toList ∧
    (∀ {otherTyped : String} {other : Command} {otherRequest : Request},
      Command.parse otherTyped = .ok other → other.request? = some otherRequest →
      (∀ text, command ≠ .raw text) → (∀ text, other ≠ .raw text) →
      request.line = otherRequest.line → command = other) ∧
    ∀ (console : Console) (world : World σ), ∃ sent,
      ((Console.handle command).runIn console world).2.channel.sent =
        world.channel.sent ++ sent ∧
      sent <+: [request.line, (Request.sync world.nextToken).line] ∧
      ((world.channel.send request.line).1.isOk = true → request.line ∈ sent) := by
  have hsaid {typed : String} {command : Command} {request : Request}
      (hparse : Command.parse typed = .ok command) (hrequest : command.request? = some request) :
      command.IsSentAs typed.toList request.line.toList :=
    Command.isSentAs_of_isSpelled (Command.isSpelled_of_read? (Command.parse_eq_ok_iff.mp hparse))
      hrequest
  refine ⟨hsaid hparse hrequest, ?_, fun console world => ?_⟩
  · intro otherTyped other otherRequest hother hotherRequest hraw hotherRaw hline
    have hsame := hsaid hother hotherRequest
    rw [← hline] at hsame
    exact Command.eq_of_isSentAs (hsaid hparse hrequest) hsame hraw hotherRaw
  · rw [Console.runIn_handle_of_request hrequest, World.sent_of_exchange]
    obtain ⟨sent, hsent, hpart, -⟩ := world.channel.sent_of_sendAll (world.exchangeLines [request])
    refine ⟨sent, hsent, hpart, fun hok => ?_⟩
    obtain ⟨more, hmore⟩ := Channel.sendAll_cons_of_isOk _ hok
    rw [List.append_cancel_left (hsent.symm.trans hmore)]
    exact List.mem_cons_self

end

/-- A world with a simulated target. -/
def World.simulated : World Simulator.Link where
  channel := { peer := { machine := {} } }

/-- A path may look like a number. -/
theorem save_is_sent :
    Command.parse "save $10 000010 12345678" = .ok (.save "$10" 0x10 0x12345678) ∧
      (Command.save "$10" 0x10 0x12345678).IsSentAs "save $10 000010 12345678".toList
        "save $10 $000010 $12345678".toList ∧
      ((Console.handle (.save "$10" 0x10 0x12345678)).runIn {} .simulated).2.channel.sent =
        ["save $10 $000010 $12345678", "echo sync-1"] := by
  have hparse : Command.parse "save $10 000010 12345678" = .ok (.save "$10" 0x10 0x12345678) := by
    decide +kernel
  have hsaid := (typed_is_sent (σ := Simulator.Link) hparse rfl).1
  rw [show (Request.save "$10" 0x10 0x12345678).line = "save $10 $000010 $12345678" by
    decide +kernel] at hsaid
  exact ⟨hparse, hsaid, by decide +kernel⟩

end RemoteDebug
