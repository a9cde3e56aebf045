import RemoteDebug.Proofs.Channel.Taking
import RemoteDebug.Proofs.Wire.LineKinds

/-!
# The own echo

A reader that waits for the echo of a token passes all items but two kinds: lines with the text of
that echo and reads that fail (`SyncToken.Passes`, `Channel.await_behind_passed`). So the first item
of the two kinds decides how the read ends and what it leaves, and without one the read ends in
vain. An echo of another token is neither: it is left out, and makes no other difference.
-/

namespace RemoteDebug

open RemoteDebug.Text RemoteDebug.Wire

/-- What a reader passes that waits for the echo of a token: no read of the items fails, and none of
their lines has the text of that echo. -/
structure Wire.SyncToken.Passes (token : SyncToken) (items : List Item) : Prop where
  readable : Channel.IsReadable items
  unanswered : ∀ line ∈ linesOf items, trimEndOf line ≠ "#echo " ++ token.text

/-- A reader that waits for an echo waits for the lines with its text. -/
theorem Awaited.sight_echo_eq_arrived_iff_text (token : SyncToken) (line : String) :
    (echo token).sight line = .arrived ↔ trimEndOf line = "#echo " ++ token.text := by
  rw [sight_echo_eq_arrived_iff]
  exact beq_iff_eq

/-- An echo is that of one token at most, whatever blanks stand behind it. -/
theorem Wire.eq_of_echoes {token other : SyncToken} {line : String}
    (h : trimEndOf line = "#echo " ++ token.text)
    (hother : trimEndOf line = "#echo " ++ other.text) : token = other :=
  eq_of_isReply (beq_iff_eq.mpr h) (beq_iff_eq.mpr hother)

/-- An echo of another token may stand among what a reader passes. -/
theorem Wire.SyncToken.Passes.append_other {token other : SyncToken} {front : List Item}
    {line : String} (h : token.Passes front) (hother : other ≠ token)
    (hline : trimEndOf line = "#echo " ++ other.text) : token.Passes (front ++ [.line line]) where
  readable text hmem := by
    rcases List.mem_append.mp hmem with hmem | hmem
    · exact h.readable text hmem
    · cases List.mem_singleton.mp hmem
  unanswered := by
    rw [linesOf_append]
    intro found hfound howner
    rcases List.mem_append.mp hfound with hfound | hfound
    · exact h.unanswered found hfound howner
    · obtain rfl := List.mem_singleton.mp hfound
      exact hother (eq_of_echoes hline howner)

/-- A reader leaves out the echoes of other tokens. -/
theorem Wire.filter_not_isEcho_of_echo {token : SyncToken} {line : String}
    (h : trimEndOf line = "#echo " ++ token.text) :
    (linesOf [.line line]).filter (fun line => !isEcho line) = [] := by
  have hecho : isEcho line = true := isEcho_of_isReply (beq_iff_eq.mpr h)
  simp [linesOf, Item.line?, hecho]

namespace Channel

variable {σ : Type} {channel : Channel σ} {token : SyncToken} {limit : Duration}
  {front rest : List Item}

/-- A reader with time reads on behind what it passes, and gives the lines among it that echo no
token with the rest. -/
theorem await_behind_passed (htime : limit.nanoseconds ≠ 0) (hqueue : channel.queue = front ++ rest)
    (hfront : token.Passes front) :
    channel.await (.echo token) limit =
      ((awaitItems (.echo token) limit rest).1.map
        ((linesOf front).filter (fun line => !isEcho line) ++ ·),
        { channel with queue := (awaitItems (.echo token) limit rest).2 }) := by
  have hnone : ∀ line ∈ linesOf front, (Awaited.echo token).sight line ≠ .arrived :=
    fun line hline => (Awaited.sight_echo_eq_arrived_iff_text token line).not.mpr
      (hfront.unanswered line hline)
  unfold await
  rw [hqueue, awaitItems_append htime hfront.readable hnone, Awaited.filter_ordinary]

/-- A reader finds the echo behind what it passes. -/
theorem await_of_echo {line : String} (htime : limit.nanoseconds ≠ 0)
    (hqueue : channel.queue = front ++ .line line :: rest) (hfront : token.Passes front)
    (hline : trimEndOf line = "#echo " ++ token.text) :
    channel.await (.echo token) limit =
      (.ok ((linesOf front).filter fun line => !isEcho line), { channel with queue := rest }) := by
  have harrived := (Awaited.sight_echo_eq_arrived_iff_text token line).mpr hline
  rw [await_behind_passed htime hqueue hfront, awaitItems_arrived harrived]
  simp only [Except.map, List.append_nil]

/-- What a reader found behind what it passed has the text of its own echo. -/
theorem echo_of_await {lines : List String} {after : Channel σ}
    (h : channel.await (.echo token) limit = (.ok lines, after)) :
    ∃ front line, channel.queue = front ++ .line line :: after.queue ∧
      trimEndOf line = "#echo " ++ token.text := by
  unfold await at h
  rcases hread : awaitItems (.echo token) limit channel.queue with ⟨_ | _, left⟩
  · rw [hread] at h
    cases h
  · rw [hread] at h
    cases h
    obtain ⟨front, last, hfront, hlast, -⟩ := awaitItems_of_ok hread
    exact ⟨front, last, hfront, (Awaited.sight_echo_eq_arrived_iff_text token last).mp hlast⟩

end Channel

/-! ## A reader takes its own echo and nothing else -/

open Channel

/-- A reader with time that waits for the echo of a token ends at the first line with its text, with
the lines before it that echo no token; or at the first read that fails, with its error; or in vain
behind the last item. It leaves what follows. What it takes for the echo is that of no other token,
and without an echo of another token it ends the same way. -/
theorem await_takes_own_reply {σ : Type} (channel : Channel σ) (token : SyncToken)
    (limit : Duration) (htime : limit.nanoseconds ≠ 0) :
    (∀ front line rest, channel.queue = front ++ .line line :: rest → token.Passes front →
      trimEndOf line = "#echo " ++ token.text →
      channel.await (.echo token) limit =
        (.ok ((linesOf front).filter fun line => !isEcho line), { channel with queue := rest })) ∧
    (∀ front text rest, channel.queue = front ++ .fault text :: rest → token.Passes front →
      channel.await (.echo token) limit = (.error (.io text), { channel with queue := rest })) ∧
    (token.Passes channel.queue →
      channel.await (.echo token) limit =
        (.error (.noReply token.text limit), { channel with queue := [] })) ∧
    (∀ lines after, channel.await (.echo token) limit = (.ok lines, after) →
      ∃ front line, channel.queue = front ++ .line line :: after.queue ∧
        ∀ other : SyncToken, trimEndOf line = "#echo " ++ other.text ↔ other = token) ∧
    (∀ front line rest, ∀ other ≠ token, channel.queue = front ++ .line line :: rest →
      token.Passes front → trimEndOf line = "#echo " ++ other.text →
      channel.await (.echo token) limit =
        ({ channel with queue := front ++ rest }).await (.echo token) limit) := by
  refine ⟨fun front line rest => await_of_echo htime, fun front text rest hqueue hfront => ?_,
    fun hpassed => ?_, fun lines after h => ?_,
    fun front line rest other hother hqueue hfront hline => ?_⟩
  · rw [await_behind_passed htime hqueue hfront]
    rfl
  · rw [await_behind_passed htime (List.append_nil _).symm hpassed]
    rfl
  · obtain ⟨front, line, hqueue, hline⟩ := echo_of_await h
    refine ⟨front, line, hqueue, fun other => ⟨fun hother => eq_of_echoes hother hline, ?_⟩⟩
    rintro rfl
    exact hline
  · rw [await_behind_passed htime (hqueue.trans (List.append_cons front _ rest))
      (hfront.append_other hother hline), await_behind_passed htime rfl hfront, linesOf_append,
      List.filter_append, filter_not_isEcho_of_echo hline, List.append_nil]

/-- The echo of token 12 is left out by the reader that waits for token 1, and the line behind the
echo of token 1 stays. -/
theorem longer_token_not_taken :
    let channel : Channel Unit := {
      queue := [.line "#status", .nothing, .line "#echo sync-12", .line "#echo sync-1 ", .line "##"]
      peer := () }
    channel.await (.echo ⟨1⟩) (.ofMilliseconds 5000) =
      (.ok ["#status"], { channel with queue := [.line "##"] }) := by
  intro channel
  have hpassed : (SyncToken.mk 1).Passes [.line "#status", .nothing, .line "#echo sync-12"] :=
    ⟨fun text hmem => by simp at hmem, by decide⟩
  have htime : (Duration.ofMilliseconds 5000).nanoseconds ≠ 0 := by decide
  exact (await_takes_own_reply channel ⟨1⟩ _ htime).1 _ "#echo sync-1 " _ rfl hpassed (by decide)

end RemoteDebug
