import RemoteDebug.Proofs.Interleaving.Conversations

/-!
# Rules of conversation

`Rules` say which conversations a dialogue may have, one behind the other, and how it may end behind
them. `Dialogue.Abides` says that a dialogue keeps to its rules from here on, whatever it is told
and whatever the watchers do; a step keeps to them (`Abides.advance`), and so does all that happens
while an action is being carried out (`Scene.abides_during`).

One rule holds for every action: it asks for the echo of no token that it has not taken
(`Action.abides_fresh`). So a token that has not been taken yet has not been asked for
(`Scene.token_le_tokensTaken`).
-/

namespace RemoteDebug

open RemoteDebug.Wire Dialogue

variable {α σ : Type}

/-- What a dialogue may say: its conversations so far, the last of which it has just had when so
many tokens were taken, and all of them at its end. -/
structure Rules (α : Type) where
  allows : Nat → List Conversation → Prop
  ends : α → List Conversation → Prop := fun _ _ => True

namespace Dialogue

/-- Whether a dialogue keeps to its rules from here on, when so many tokens are taken, such is known
of the target, and it has had some conversations. -/
def Abides (rules : Rules α) : Dialogue α → Nat → TargetState → List Conversation → Prop
  | done result, _, _, talks => rules.ends result talks
  | takeToken next, taken, target, talks =>
    (next ⟨taken + 1⟩).Abides rules (taken + 1) target talks
  | send lines next, taken, target, talks =>
    ∀ sent outcome,
      let behind := talks ++ [{ lines, sent, reply := outcome.map fun _ => [] }]
      rules.allows taken behind ∧ (next outcome).Abides rules taken target behind
  | converse lines awaited _ next, taken, target, talks =>
    ∀ sent reply,
      let behind := talks ++ [{ lines, awaited := some awaited, sent, reply }]
      rules.allows taken behind ∧ (next reply).Abides rules taken target behind
  | readTarget next, taken, target, talks =>
    ∀ now, target.Onward now → (next now).Abides rules taken now talks
  | changeTarget change next, taken, target, talks =>
    ∀ now, target.Onward now → next.Abides rules taken (change now) talks
  | markStopped next, taken, target, talks =>
    ∀ now, target.Onward now → (next !now.stopped).Abides rules taken now.marked talks
  | announceStop next, taken, target, talks => next.Abides rules taken target talks
  | beginWatch next, taken, target, talks =>
    ∀ started, (next started).Abides rules taken target talks

variable {rules : Rules α} {taken : Nat} {target : TargetState} {talks : List Conversation}

theorem Abides.onward {dialogue : Dialogue α} {now : TargetState}
    (h : dialogue.Abides rules taken target talks) (hnow : target.Onward now) :
    dialogue.Abides rules taken now talks := by
  induction dialogue generalizing taken talks with
  | done result => exact h
  | takeToken next ih => exact ih _ h
  | send lines next ih => exact fun sent outcome => ⟨(h sent outcome).1, ih _ (h sent outcome).2⟩
  | converse lines awaited limit next ih =>
    exact fun sent reply => ⟨(h sent reply).1, ih _ (h sent reply).2⟩
  | readTarget next ih => exact fun later hlater => h later (hnow.trans hlater)
  | changeTarget change next ih => exact fun later hlater => h later (hnow.trans hlater)
  | markStopped next ih => exact fun later hlater => h later (hnow.trans hlater)
  | announceStop next ih => exact ih h
  | beginWatch next ih => exact fun started => ih started (h started)

/-- A step keeps to the rules, and if it is a conversation they allow it. -/
theorem Abides.advance [Peer σ] {dialogue : Dialogue α} {world : World σ}
    (h : dialogue.Abides rules world.tokensTaken world.target talks) :
    let behind := talks ++ (dialogue.conversation? world).toList
    (dialogue.advance world).1.Abides rules (dialogue.advance world).2.tokensTaken
        (dialogue.advance world).2.target behind ∧
      ((dialogue.conversation? world).isSome → rules.allows world.tokensTaken behind) := by
  -- only two kinds of step are conversations
  have hsame : talks ++ (none : Option Conversation).toList = talks := List.append_nil talks
  cases dialogue with
  | send lines next => exact ⟨(h _ _).2, fun _ => (h _ _).1⟩
  | converse lines awaited limit next => exact ⟨(h _ _).2, fun _ => (h _ _).1⟩
  | done result => exact ⟨hsame.symm ▸ h, nofun⟩
  | takeToken next => exact ⟨hsame.symm ▸ h, nofun⟩
  | readTarget next => exact ⟨hsame.symm ▸ h world.target (.refl _), nofun⟩
  | changeTarget change next => exact ⟨hsame.symm ▸ h world.target (.refl _), nofun⟩
  | markStopped next => exact ⟨hsame.symm ▸ h world.target (.refl _), nofun⟩
  | announceStop next => exact ⟨hsame.symm ▸ h, nofun⟩
  | beginWatch next =>
    refine ⟨?_, nofun⟩
    show (next world.beginWatch.1).Abides rules world.beginWatch.2.tokensTaken
      world.beginWatch.2.target (talks ++ none.toList)
    rw [world.beginWatch_target, hsame]
    have htaken : world.beginWatch.2.tokensTaken = world.tokensTaken := by
      unfold World.beginWatch
      split <;> rfl
    rw [htaken]
    exact h world.beginWatch.1

/-! ## The parts of an action -/

theorem abides_noticing {seen : Bool} {next : Dialogue α}
    (h : next.Abides rules taken target talks) :
    (noticing seen next).Abides rules taken target talks := by
  unfold noticing
  cases seen with
  | false => exact h
  | true =>
    intro now hnow
    have hmarked := h.onward (hnow.trans now.onward_marked)
    cases now.stopped with
    | true => exact hmarked
    | false => exact hmarked

/-- An exchange is one conversation, which asks for the echo of the next token. -/
theorem abides_exchanging {limit : Duration} {requests : List Request}
    {next : Except Error (List String) → Dialogue α}
    (h : ∀ sent reply,
      let behind := talks ++ [.asking requests ⟨taken + 1⟩ sent reply]
      rules.allows (taken + 1) behind ∧ (next reply).Abides rules (taken + 1) target behind) :
    (exchanging limit requests next).Abides rules taken target talks := by
  intro sent reply
  refine ⟨(h sent reply).1, ?_⟩
  rcases reply with cause | lines
  · exact (h sent _).2
  · exact abides_noticing (h sent _).2

/-- A refresh has a conversation about the status and, if that gives it a plan, one about the
views. -/
theorem abides_refreshing {session : Session} {address : Option Nat} {move : Move}
    {next : Except Error Unit × Session → Dialogue α}
    (hstatus : ∀ sent reply,
      rules.allows (taken + 1) (talks ++ [.asking [.status] ⟨taken + 1⟩ sent reply]))
    (hviews : ∀ now sent status plan sent' reply, target.Onward now → now.stopped = true →
      session.plan now status address move = .ok plan →
      rules.allows (taken + 2) (talks ++ [.asking [.status] ⟨taken + 1⟩ sent (.ok status)] ++
        [.asking (session.viewRequests plan.2) ⟨taken + 2⟩ sent' reply]))
    (hfails : ∀ cause taken now more, (next (.error cause, session)).Abides rules taken now more)
    (hfinds : ∀ now sent status plan sent' views later, target.Onward now → now.stopped = true →
      session.plan now status address move = .ok plan →
      (next (.ok (), session.withFinding (session.findingIn plan views))).Abides rules (taken + 2)
        later (talks ++ [.asking [.status] ⟨taken + 1⟩ sent (.ok status)] ++
          [.asking (session.viewRequests plan.2) ⟨taken + 2⟩ sent' (.ok views)])) :
    (refreshing session address move next).Abides rules taken target talks := by
  intro now hnow
  dsimp only
  cases hstopped : now.stopped with
  | false => exact hfails _ _ _ _
  | true =>
    rw [if_pos rfl]
    intro later hlater
    -- a stopped target stays as it is, whatever the watchers do
    obtain rfl := hlater.eq_of_stopped hstopped
    refine abides_exchanging fun sent reply => ⟨hstatus sent reply, ?_⟩
    rcases reply with cause | status
    · exact hfails _ _ _ _
    dsimp only
    cases hplan : session.plan later status address move with
    | error cause => exact hfails _ _ _ _
    | ok plan =>
      refine abides_exchanging fun sent' reply => ⟨?_, ?_⟩
      · exact hviews later sent status plan sent' reply hnow hstopped hplan
      · rcases reply with cause | views
        · exact hfails _ _ _ _
        · exact fun last _ => hfinds later sent status plan sent' views _ hnow hstopped hplan

end Dialogue

/-! ## Fresh tokens -/

/-- The rule that a conversation asks for the echo of no token but those that have been taken. -/
def Rules.fresh : Rules α where
  allows taken talks := ∀ talk token, talks.getLast? = some talk → talk.token? = some token →
    token.number ≤ taken

namespace Action

theorem allows_fresh_asking (talks : List Conversation) (requests : List Request) (taken : Nat)
    (sent : List String) (reply : Except Error (List String)) :
    (Rules.fresh : Rules α).allows taken (talks ++ [.asking requests ⟨taken⟩ sent reply]) := by
  intro talk token htalk htoken
  obtain rfl := Option.some.inj (List.getLast?_concat.symm.trans htalk)
  obtain rfl := Option.some.inj htoken
  exact Nat.le_refl taken

theorem allows_fresh_of_no_token {talk : Conversation} (h : talk.token? = none) (taken : Nat)
    (talks : List Conversation) : (Rules.fresh : Rules α).allows taken (talks ++ [talk]) := by
  intro other token hother htoken
  obtain rfl := Option.some.inj (List.getLast?_concat.symm.trans hother)
  rw [h] at htoken
  cases htoken

variable {taken : Nat} {target : TargetState} {talks : List Conversation}

theorem abides_fresh_refreshing {session : Session} {address : Option Nat} {move : Move}
    {next : Except Error Unit × Session → Dialogue (Except Error (List String) × Session)}
    (h : ∀ outcome taken now more, (next outcome).Abides .fresh taken now more) :
    (refreshing session address move next).Abides .fresh taken target talks :=
  abides_refreshing (fun _ _ => allows_fresh_asking _ _ _ _ _)
    (fun _ _ _ _ _ _ _ _ _ => allows_fresh_asking _ _ _ _ _) (fun _ => h _)
    fun _ _ _ _ _ _ _ _ _ _ => h _ _ _ _

theorem abides_fresh_refreshed (outcome : Except Error Unit × Session) (taken : Nat)
    (target : TargetState) (talks : List Conversation) :
    (refreshed outcome).Abides .fresh taken target talks := by
  rcases outcome with ⟨_ | _, _⟩ <;> trivial

theorem abides_fresh_asking (session : Session) (request : Request) :
    (courseOfAsking session request).Abides .fresh taken target talks :=
  abides_exchanging fun _ _ => ⟨allows_fresh_asking _ _ _ _ _, trivial⟩

/-- No action asks for the echo of a token that it has not taken. -/
theorem abides_fresh (action : Action) (session : Session) (taken : Nat) (target : TargetState) :
    (action.course session).Abides .fresh taken target [] := by
  cases action with
  | refresh move => exact abides_fresh_refreshing abides_fresh_refreshed
  | goto address =>
    simp only [course]
    split
    · trivial
    · exact abides_fresh_refreshing abides_fresh_refreshed
  | pauseOrResume =>
    intro now _
    dsimp only
    split
    · intro sent outcome
      refine ⟨allows_fresh_of_no_token rfl _ _, ?_⟩
      rcases outcome with cause | _
      · trivial
      · exact fun _ _ _ _ _ => trivial
    · intro sent outcome
      refine ⟨allows_fresh_of_no_token rfl _ _, ?_⟩
      rcases outcome with cause | _
      · trivial
      · exact fun _ => trivial
  | step into =>
    intro now _
    dsimp only
    split
    · intro sent noise
      refine ⟨allows_fresh_of_no_token rfl _ _, ?_⟩
      rcases noise with cause | noise
      · trivial
      · refine fun _ _ => abides_fresh_refreshing fun outcome _ _ _ => ?_
        rcases outcome with ⟨_ | _, _⟩ <;> trivial
    · trivial
  | askRaw text => exact abides_fresh_asking session _
  | loadMemory path address => exact abides_fresh_asking session _
  | saveMemory path address length => exact abides_fresh_asking session _
  | setFocus view =>
    simp only [course, courseOfFocus]
    split
    · trivial
    · exact fun _ _ => trivial
  | setActiveViews views => trivial
  | setLines lines => trivial
  | setFollowPc followPc => trivial

end Action

/-! ## Runs -/

namespace Scene

variable [Peer σ] {rules : Rules (Except Error (List String) × Session)}
  {talks : List Conversation} {scene : Scene σ} {task : Task}

/-- A turn that does not end the action being carried out leaves it keeping to its rules. -/
theorem abides_after (htask : scene.task = some task)
    (h : task.rest.Abides rules scene.world.tokensTaken scene.world.target talks) {turn : Turn}
    (hgoing : (Moment.mk scene turn).ending? = none) :
    let behind := talks ++ (Moment.mk scene turn).conversation?.toList
    (∃ next, (scene.after turn).task = some next ∧
      next.rest.Abides rules (scene.after turn).world.tokensTaken
        (scene.after turn).world.target behind) ∧
      ((Moment.mk scene turn).conversation?.isSome →
        rules.allows scene.world.tokensTaken behind) := by
  -- only a step of the session is a conversation
  have hsame : talks ++ (none : Option Conversation).toList = talks := List.append_nil talks
  have hturn := scene.turnsInto_after turn
  generalize scene.after turn = next at hturn ⊢
  cases hturn with
  | busy action => exact ⟨⟨task, htask, hsame.symm ▸ h⟩, nofun⟩
  | begins action hidle => cases htask.symm.trans hidle
  | idle spawns hidle => cases htask.symm.trans hidle
  | ends spawns hother hdone =>
    unfold Moment.ending? at hgoing
    rw [hother] at hgoing
    dsimp only at hgoing
    rw [hdone] at hgoing
    cases hgoing
  | goesOn spawns hother =>
    obtain rfl := Option.some.inj (htask.symm.trans hother)
    have htalk : (Moment.mk scene (.proceed spawns)).conversation? =
        task.rest.conversation? scene.world := by
      unfold Moment.conversation?
      rw [htask]
    obtain ⟨habides, hallows⟩ := h.advance
    rw [htalk, (scene.carryOn_world task spawns).2, scene.carryOn_target]
    exact ⟨⟨_, rfl, habides⟩, hallows⟩
  | absent index => exact ⟨⟨task, htask, hsame.symm ▸ h⟩, nofun⟩
  | @watches stage index =>
    refine ⟨⟨task, htask, ?_⟩, nofun⟩
    show task.rest.Abides rules (stage.step scene.world).2.tokensTaken
      (stage.step scene.world).2.target (talks ++ none.toList)
    rw [(stage.step_silent scene.world).2, hsame]
    exact h.onward (stage.step_onward scene.world)
  | arrives items closes => exact ⟨⟨task, htask, hsame.symm ▸ h⟩, nofun⟩

/-- All that is said while an action is being carried out keeps to its rules, and so does its
end. -/
theorem abides_during (htask : scene.task = some task)
    (h : task.rest.Abides rules scene.world.tokensTaken scene.world.target talks)
    {turns : List Turn}
    (hbusy : ∀ moment ∈ scene.moments turns, moment.before.task.isSome = true) :
    let behind := talks ++ (scene.moments turns).filterMap Moment.conversation?
    (behind = talks ∨ ∃ taken, rules.allows taken behind) ∧
      ∀ moment ∈ scene.moments turns, ∀ ending, moment.ending? = some ending →
        rules.ends ending.2 behind := by
  induction turns generalizing scene task talks with
  | nil => exact ⟨.inl (List.append_nil _), fun moment hmoment => absurd hmoment List.not_mem_nil⟩
  | cons turn rest ih =>
    cases hending : (Moment.mk scene turn).ending? with
    | some ending =>
      obtain ⟨hother, hdone, hafter⟩ := Moment.of_ending hending
      obtain rfl : task = ending.1 := Option.some.inj (htask.symm.trans hother)
      -- no moment is left in which the action is being carried out
      obtain rfl : rest = [] := by
        rw [moments, List.forall_mem_cons] at hbusy
        exact eq_nil_of_busy (congrArg Scene.task hafter) hbusy.2
      have htalk : (Moment.mk scene turn).conversation? = none := by
        unfold Moment.conversation?
        rw [htask]
        cases turn <;> simp [hdone, Dialogue.conversation?]
      rw [moments, moments, List.filterMap_cons_none htalk, List.filterMap_nil, List.append_nil]
      refine ⟨.inl rfl, fun moment hmoment other hends => ?_⟩
      obtain rfl := List.mem_singleton.mp hmoment
      obtain rfl := Option.some.inj (hending.symm.trans hends)
      rw [hdone] at h
      exact h
    | none =>
      obtain ⟨⟨next, hnext, habides⟩, hallows⟩ := abides_after htask h hending
      rw [moments, List.forall_mem_cons] at hbusy
      obtain ⟨hlater, hends⟩ := ih hnext habides hbusy.2
      have hjoin : talks ++ (Moment.mk scene turn).conversation?.toList ++
          ((scene.after turn).moments rest).filterMap Moment.conversation? =
          talks ++ (scene.moments (turn :: rest)).filterMap Moment.conversation? := by
        rw [moments, Moment.conversations_cons, List.append_assoc]
      rw [hjoin] at hlater hends
      refine ⟨?_, fun moment hmoment other hother => ?_⟩
      · rcases hlater with hsame | hlater
        · cases htalk : (Moment.mk scene turn).conversation? with
          | none =>
            rw [htalk] at hsame
            exact .inl (hsame.trans (List.append_nil _))
          | some talk =>
            have hallowed := hallows (by rw [htalk]; rfl)
            rw [← hsame] at hallowed
            exact .inr ⟨_, hallowed⟩
        · exact .inr hlater
      · rw [moments] at hmoment
        rcases List.mem_cons.mp hmoment with rfl | hmoment
        · rw [hending] at hother
          cases hother
        · exact hends moment hmoment other hother

/-- Whether the action being carried out, if there is one, asks for the echo of no token that it has
not taken. -/
def IsFresh (scene : Scene σ) : Prop :=
  ∀ task, scene.task = some task →
    ∃ talks, task.rest.Abides .fresh scene.world.tokensTaken scene.world.target talks

theorem IsFresh.after (h : scene.IsFresh) (turn : Turn) : (scene.after turn).IsFresh := by
  intro next hnext
  cases htask : scene.task with
  | some task =>
    obtain ⟨talks, habides⟩ := h task htask
    cases hending : (Moment.mk scene turn).ending? with
    | some ending =>
      obtain ⟨-, -, hafter⟩ := Moment.of_ending hending
      rw [show (scene.after turn).task = none from congrArg Scene.task hafter] at hnext
      cases hnext
    | none =>
      obtain ⟨⟨other, hother, habides⟩, -⟩ := abides_after htask habides hending
      obtain rfl := Option.some.inj (hnext.symm.trans hother)
      exact ⟨_, habides⟩
  | none =>
    have hturn := scene.turnsInto_after turn
    generalize scene.after turn = later at hturn hnext ⊢
    cases hturn with
    | begins action =>
      obtain rfl := Option.some.inj hnext
      exact ⟨[], action.abides_fresh scene.session _ _⟩
    | goesOn spawns hbusy => cases htask.symm.trans hbusy
    | ends spawns hbusy => cases htask.symm.trans hbusy
    | _ => cases htask.symm.trans hnext

/-- A token that has not been taken has not been asked for. -/
theorem token_le_tokensTaken (hstart : scene.task = none) (turns : List Turn) :
    ∀ moment ∈ scene.moments turns, ∀ token, moment.token? = some token →
      token.number ≤ (scene.play turns).world.tokensTaken := by
  have hfresh : scene.IsFresh := fun task htask => by cases hstart.symm.trans htask
  refine (history_induction (fun history scene => scene.IsFresh ∧ ∀ moment ∈ history, ∀ token,
    moment.token? = some token → token.number ≤ scene.world.tokensTaken) ?_
    ⟨hfresh, fun moment hmoment => absurd hmoment List.not_mem_nil⟩ turns).2
  intro history scene turn ⟨hfresh, hpast⟩
  have hle := (Moment.mk scene turn).sent_after.2
  refine ⟨hfresh.after turn, fun moment hmoment token htoken => ?_⟩
  rcases List.mem_append.mp hmoment with hmoment | hmoment
  · exact Nat.le_trans (hpast moment hmoment token htoken) hle
  · obtain rfl := List.mem_singleton.mp hmoment
    obtain ⟨talk, htalk, htold⟩ := Option.bind_eq_some_iff.mp htoken
    obtain ⟨_, task, -, htask, hrest⟩ := Moment.exists_task_of_conversation htalk
    obtain ⟨talks, habides⟩ := hfresh task htask
    have hallowed := habides.advance.2 (by rw [hrest]; rfl)
    rw [hrest] at hallowed
    exact Nat.le_trans (hallowed talk token List.getLast?_concat htold) hle

/-- The tokens that are taken next differ from all that have been asked for. -/
theorem token_ne_next (hstart : scene.task = none) (turns : List Turn) {moment : Moment σ}
    (hmoment : moment ∈ scene.moments turns) {token : SyncToken}
    (htoken : moment.token? = some token) (ahead : Nat) :
    token ≠ ⟨(scene.play turns).world.tokensTaken + 1 + ahead⟩ := by
  rintro rfl
  have hle : _ + 1 + ahead ≤ (scene.play turns).world.tokensTaken :=
    token_le_tokensTaken hstart turns moment hmoment _ htoken
  omega

end Scene

end RemoteDebug
