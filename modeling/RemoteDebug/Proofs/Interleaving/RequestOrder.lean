import RemoteDebug.Proofs.Interleaving.Rules
import RemoteDebug.Proofs.Interleaving.Anchoring

/-!
# What a refresh asks for

A refresh asks for the status, reads up to the echo of its first token, and only then asks for the
views, each for the window that was planned for it, and for the echo of a second token. It does so
whatever the target sends and wherever it fails: what has been sent is always the first part of
these lines (`refresh_asks_in_order`). `refreshRules` are the two conversations as a rule, and
`Session.Plans` says which windows they name.
-/

namespace RemoteDebug

open RemoteDebug.Wire Dialogue

variable {σ : Type}

/-! ## Plans -/

/-- Whether windows are those that the views of a session ask for at a cursor: the focused view
moves and the others stay where they are, and each window lies in the address space. -/
structure Session.Plans (session : Session) (cursor : Cursor) (move : Move)
    (windows : PerView (Option Window)) : Prop where
  focused : session.views.get session.focus = true →
    session.focus.window? cursor move session.settings.lines = .ok (windows.get session.focus)
  others : ∀ view, view ≠ session.focus → session.views.get view = true →
    view.window? cursor .stay session.settings.lines = .ok (windows.get view)
  inactive : ∀ view, session.views.get view = false → windows.get view = none
  addressed : ∀ view, session.views.get view = true →
    (windows.get view).isSome = view.isAddressed
  inside : ∀ view window, windows.get view = some window →
    1 ≤ window.width ∧ window.first + window.width ≤ maxAddress

namespace Session

variable {session : Session}

theorem plans_of_plannedWindows {cursor : Cursor} {move : Move} {windows : PerView (Option Window)}
    (h : session.plannedWindows cursor move = .ok windows) :
    session.Plans cursor move windows := by
  have hplanned (view : View) := plannedWindow_of_plannedWindows h view
  refine ⟨?_, ?_, ?_, ?_, ?_⟩
  · intro hactive
    have hview := hplanned session.focus
    unfold plannedWindow at hview
    rwa [if_pos hactive, if_pos rfl] at hview
  · intro view hother hactive
    have hview := hplanned view
    unfold plannedWindow at hview
    rwa [if_pos hactive, if_neg hother] at hview
  · intro view hinactive
    have hview := hplanned view
    unfold plannedWindow at hview
    rw [hinactive] at hview
    exact (Except.ok.inj hview).symm
  · intro view hactive
    obtain ⟨planned, hok, haddressed⟩ := session.plannedWindows_ok cursor move
    obtain rfl := Except.ok.inj (h.symm.trans hok)
    exact haddressed view hactive
  · intro view window _
    rw [window.first_add_width]
    exact ⟨window.width_pos, window.last_le_max⟩

end Session

/-! ## The rules of a refresh -/

/-- The address and the move with which an action refreshes the views, if that is what it does. -/
def Action.looks? : Action → Option (Option Nat × Move)
  | refresh move => some (none, move)
  | goto address => some (some address, .stay)
  | _ => none

/-- Some requests and the request for the echo of a token, as they are sent. -/
def requestLines (requests : List Request) (token : SyncToken) : List String :=
  (requests ++ [Request.sync token]).map Request.line

/-- The rules of a refresh that begins when so many tokens are taken: one conversation about the
status, then one about the planned views; and who succeeds has had both. -/
def refreshRules (session : Session) (target : TargetState) (taken : Nat) (address : Option Nat)
    (move : Move) : Rules (Except Error (List String) × Session) where
  allows _ talks :=
    (∃ sent reply, talks = [.asking [.status] ⟨taken + 1⟩ sent reply]) ∨
    ∃ sent status plan sent' reply, session.plan target status address move = .ok plan ∧
      talks = [.asking [.status] ⟨taken + 1⟩ sent (.ok status),
        .asking (session.viewRequests plan.2) ⟨taken + 2⟩ sent' reply]
  ends outcome talks := outcome.1.isOk = true →
    ∃ sent status plan sent' views, session.plan target status address move = .ok plan ∧
      outcome.2.windows = plan.2 ∧
      talks = [.asking [.status] ⟨taken + 1⟩ sent (.ok status),
        .asking (session.viewRequests plan.2) ⟨taken + 2⟩ sent' (.ok views)]

namespace Action

theorem abides_refreshRules_refreshing {session : Session} {target : TargetState} {taken : Nat}
    {address : Option Nat} {move : Move} (hstopped : target.stopped = true) :
    (refreshing session address move refreshed).Abides
      (refreshRules session target taken address move) taken target [] := by
  refine abides_refreshing ?_ ?_ ?_ ?_
  · exact fun sent reply => .inl ⟨sent, reply, rfl⟩
  · intro now sent status plan sent' reply hnow _ hplan
    obtain rfl := hnow.eq_of_stopped hstopped
    exact .inr ⟨sent, status, plan, sent', reply, hplan, rfl⟩
  · exact fun cause taken now more hok => (by cases hok)
  · intro now sent status plan sent' views later hnow _ hplan _
    obtain rfl := hnow.eq_of_stopped hstopped
    exact ⟨sent, status, plan, sent', views, hplan, rfl, rfl⟩

/-- An action that refreshes the views keeps to the rules of a refresh. -/
theorem abides_refreshRules {action : Action} {session : Session} {target : TargetState}
    {taken : Nat} {address : Option Nat} {move : Move}
    (hlooks : action.looks? = some (address, move)) (hstopped : target.stopped = true) :
    (action.course session).Abides (refreshRules session target taken address move) taken target
      [] := by
  cases action with
  | refresh move =>
    cases hlooks
    exact abides_refreshRules_refreshing hstopped
  | goto address =>
    cases hlooks
    simp only [course]
    split
    · exact fun hok => (by cases hok)
    · exact abides_refreshRules_refreshing hstopped
  | _ => cases hlooks

end Action

/-! ## How a refresh goes -/

section

variable [Peer σ]

/-- Whether a refresh, when so many tokens were taken, got no further than asking for the status and
for the echo of its first token along some moments, and has not succeeded. -/
def AsksForStatus (taken : Nat) (during : List (Moment σ)) : Prop :=
  sentAlong during <+: requestLines [.status] ⟨taken + 1⟩ ∧
    ∀ moment ∈ during, ∀ ending, moment.ending? = some ending → ending.2.1.isOk = false

/-- Whether a refresh got as far as asking for the views along some moments: it asked for the status
and for the echo of its first token, and read that echo, before it sent anything else; what it sent
behind is the first part of the requests for the views and for the echo of its second token, in
windows planned for where the status told it to look; and if it has succeeded it has sent all of
them, and they are the windows of the session. -/
def AsksForViews (session : Session) (target : TargetState) (taken : Nat) (address : Option Nat)
    (move : Move) (during : List (Moment σ)) : Prop :=
  ∃ early ask late status cursor windows, during = early ++ ask :: late ∧
    (∀ moment ∈ early, moment.sent = []) ∧
    ask.sent = requestLines [.status] ⟨taken + 1⟩ ∧
    (∃ items echo, ask.taken = items ++ [.line echo] ∧ SyncToken.isReply ⟨taken + 1⟩ echo = true) ∧
    ask.conversation?.map Conversation.reply = some (.ok status) ∧
    anchor target ((splitReply status).block? .status) address = .ok cursor ∧
    session.Plans cursor move windows ∧
    sentAlong late <+: requestLines (session.viewRequests windows) ⟨taken + 2⟩ ∧
    ∀ moment ∈ during, ∀ task lines session',
      moment.ending? = some (task, .ok lines, session') →
      sentAlong late = requestLines (session.viewRequests windows) ⟨taken + 2⟩ ∧
        session'.windows = windows

variable {session : Session} {target : TargetState} {taken : Nat} {address : Option Nat}
  {move : Move} {during : List (Moment σ)}

/-- A refresh that has had one conversation at most has got no further than the status. -/
theorem asksForStatus_of_rules
    (hends : ∀ moment ∈ during, ∀ ending, moment.ending? = some ending →
      (refreshRules session target taken address move).ends ending.2
        (during.filterMap Moment.conversation?))
    (hsaid : during.filterMap Moment.conversation? = [] ∨ ∃ sent reply,
      during.filterMap Moment.conversation? = [.asking [.status] ⟨taken + 1⟩ sent reply]) :
    AsksForStatus taken during := by
  refine ⟨?_, fun moment hmoment ending hending => ?_⟩
  · rw [sentAlong_eq]
    rcases hsaid with hnothing | ⟨sent, reply, honly⟩
    · rw [hnothing]
      exact List.nil_prefix
    · obtain ⟨ask, -, htalk⟩ := List.mem_filterMap.mp (honly ▸ List.mem_singleton_self _)
      rw [honly, List.flatMap_singleton]
      exact (Moment.sent_of_conversation htalk).2.1
  · rw [Bool.eq_false_iff]
    intro hok
    -- who succeeds has had two conversations
    obtain ⟨_, _, _, _, _, -, -, hboth⟩ := hends moment hmoment ending hending hok
    rcases hsaid with hnothing | ⟨sent, reply, honly⟩
    · cases hnothing.symm.trans hboth
    · cases honly.symm.trans hboth

/-- A refresh that has had both conversations has got as far as the views. -/
theorem asksForViews_of_rules {sent status sent' : List String}
    {plan : Cursor × PerView (Option Window)} {reply : Except Error (List String)}
    (hends : ∀ moment ∈ during, ∀ ending, moment.ending? = some ending →
      (refreshRules session target taken address move).ends ending.2
        (during.filterMap Moment.conversation?))
    (hplan : session.plan target status address move = .ok plan)
    (hboth : during.filterMap Moment.conversation? =
      [.asking [.status] ⟨taken + 1⟩ sent (.ok status),
        .asking (session.viewRequests plan.2) ⟨taken + 2⟩ sent' reply]) :
    AsksForViews session target taken address move during := by
  obtain ⟨early, ask, late, hsplit, hquiet, hask, hlate⟩ := List.filterMap_eq_cons_iff.mp hboth
  obtain ⟨look, -, hlook⟩ := List.mem_filterMap.mp (hlate ▸ List.mem_singleton_self _)
  obtain ⟨hasked, -, hall⟩ := Moment.sent_of_conversation hask
  obtain ⟨-, hlooked, hwhole⟩ := Moment.sent_of_conversation hlook
  obtain ⟨hcursor, hwindows⟩ := Session.of_plan hplan
  have hsent : sentAlong late = sent' := by
    rw [sentAlong_eq, hlate, List.flatMap_singleton]
    rfl
  refine ⟨early, ask, late, status, plan.1, plan.2, hsplit, fun moment hmoment => ?_,
    hasked.trans (hall rfl), Moment.taken_of_conversation hask rfl rfl, by rw [hask]; rfl,
    hcursor, Session.plans_of_plannedWindows hwindows, hsent ▸ hlooked, ?_⟩
  · rw [moment.sent_eq, hquiet moment hmoment]
    rfl
  · intro moment hmoment task lines session' hending
    obtain ⟨_, status', plan', _, views, hplan', hkept, hsame⟩ :=
      hends moment hmoment _ hending rfl
    -- the two conversations are the same, so their replies and their plans are
    simp only [hboth, List.cons.injEq, Conversation.asking, Conversation.mk.injEq,
      Except.ok.injEq, true_and, and_true] at hsame
    obtain ⟨⟨-, rfl⟩, -, -, rfl⟩ := hsame
    obtain rfl := Except.ok.inj (hplan.symm.trans hplan')
    exact ⟨hsent.trans (hwhole rfl), hkept⟩

/-- While an action refreshes the views of a stopped target, it gets as far as the status, or as far
as the views. -/
theorem Scene.asks_during {before : Scene σ} {action : Action} (hidle : before.task = none)
    (hstopped : before.world.target.stopped = true)
    (hlooks : action.looks? = some (address, move)) {turns : List Turn}
    (hbusy : ∀ moment ∈ (before.begin action).moments turns, moment.before.task.isSome = true) :
    AsksForStatus before.world.tokensTaken ((before.begin action).moments turns) ∨
      AsksForViews before.session before.world.target before.world.tokensTaken address move
        ((before.begin action).moments turns) := by
  have habides : (action.course before.session).Abides
      (refreshRules before.session before.world.target before.world.tokensTaken address move)
      before.world.tokensTaken before.world.target [] :=
    Action.abides_refreshRules hlooks hstopped
  rw [← before.begin_world action] at habides
  have hduring := abides_during (task_begin hidle action) habides hbusy
  rw [before.begin_world action] at hduring
  obtain ⟨hnothing | ⟨_, ⟨sent, reply, honly⟩ |
    ⟨sent, status, plan, sent', reply, hplan, hboth⟩⟩, hends⟩ := hduring
  · exact .inl (asksForStatus_of_rules hends (.inl hnothing))
  · exact .inl (asksForStatus_of_rules hends (.inr ⟨sent, reply, honly⟩))
  · exact .inr (asksForViews_of_rules hends hplan hboth)

end

/-- What a refresh asks for is fixed, in order, and inside the address space. Along every run, while
an action refreshes the views of a stopped target, it asks with two tokens that differ from each
other and from all that were asked for before, and it gets as far as the status, or as far as the
views. -/
theorem refresh_asks_in_order [Peer σ] {start : Scene σ} (hstart : start.task = none)
    {turns : List Turn} {front during back : List (Moment σ)} {before : Scene σ} {action : Action}
    {address : Option Nat} {move : Move}
    (hpath : start.moments turns = front ++ ⟨before, .begin action⟩ :: (during ++ back))
    (hidle : before.task = none) (hstopped : before.world.target.stopped = true)
    (hlooks : action.looks? = some (address, move))
    (hbusy : ∀ moment ∈ during, moment.before.task.isSome = true) :
    let taken := before.world.tokensTaken
    let first : SyncToken := ⟨taken + 1⟩
    let second : SyncToken := ⟨taken + 2⟩
    first ≠ second ∧
    (∀ moment ∈ front, ∀ token, moment.token? = some token → token ≠ first ∧ token ≠ second) ∧
    (AsksForStatus taken during ∨
      AsksForViews before.session before.world.target taken address move during) := by
  intro taken first second
  obtain ⟨early, late, -, hfront, hbefore, hlate⟩ := Scene.exists_turns_of_moments hpath
  obtain ⟨spent, _, -, hduring, -⟩ := Scene.exists_turns_of_append hlate
  refine ⟨fun hsame => ?_, fun moment hmoment token htoken => ?_, ?_⟩
  · exact absurd (congrArg SyncToken.number hsame) (Nat.ne_of_lt (Nat.lt_succ_self _))
  · rw [← hfront] at hmoment
    have hnew := Scene.token_ne_next hstart early hmoment htoken
    rw [← hbefore] at hnew
    exact ⟨hnew 0, hnew 1⟩
  · rw [← hduring] at hbusy ⊢
    exact Scene.asks_during hidle hstopped hlooks hbusy

/-- A user who pauses the target and, once it is found stopped, looks at the memory too. -/
def lookingAtMemory : List Turn :=
  .begin .pauseOrResume :: List.replicate 4 (.proceed true) ++ List.replicate 5 (.watch 0) ++
    [.begin (.setActiveViews [.memory]), .proceed true]

/-- A refresh of the registers and the memory asks for the memory where the status says that the
target is, and only once it has read its first echo. -/
theorem refresh_asks_for_memory :
    let channel : Channel Simulator.Link := { peer := { machine := {
      pc := 0x2000
      script := [("registers", [[]]), ("memory", [[]])] } } }
    let before := (Scene.opening {} channel 0).play lookingAtMemory
    let during := (before.begin (.refresh .stay)).moments (List.replicate 8 (.proceed true))
    ∃ early ask late, during = early ++ ask :: late ∧
      sentAlong early = [] ∧ ask.sent = ["status", "echo sync-1"] ∧
      sentAlong late = ["registers", "memory $002000 $0000c0", "echo sync-2"] ∧
      ∃ items echo, ask.taken = items ++ [.line echo] ∧ (⟨1⟩ : SyncToken).isReply echo = true := by
  intro channel before during
  have hpath : (Scene.opening {} channel 0).moments
        (lookingAtMemory ++ .begin (.refresh .stay) :: List.replicate 8 (.proceed true)) =
      (Scene.opening {} channel 0).moments lookingAtMemory ++
        ⟨before, .begin (.refresh .stay)⟩ :: (during ++ []) := by
    rw [Scene.moments_append, Scene.moments, List.append_nil]
    rfl
  have hbusy : ∀ moment ∈ during, moment.before.task.isSome = true := by decide +kernel
  have hidle : before.task.isNone = true := by decide +kernel
  have hstopped : before.world.target.stopped = true := by decide +kernel
  have htaken : before.world.tokensTaken = 0 := by decide +kernel
  have hsent : sentAlong during =
      ["status", "echo sync-1", "registers", "memory $002000 $0000c0", "echo sync-2"] := by
    decide +kernel
  -- from here on the run counts no more
  clear_value during before channel
  obtain ⟨-, ⟨hpart, -⟩ | ⟨early, ask, late, _, _, _, hsplit, hquiet, hask, hecho, -⟩⟩ :=
    (refresh_asks_in_order rfl hpath (Option.isNone_iff_eq_none.mp hidle) hstopped rfl hbusy).2
  · rw [hsent, htaken] at hpart
    exact absurd hpart.length_le (by decide)
  · have hearly : sentAlong early = [] := List.flatMap_eq_nil_iff.mpr hquiet
    rw [htaken] at hask hecho
    rw [hsplit, sentAlong, List.flatMap_append, List.flatMap_cons, hask] at hsent
    refine ⟨early, ask, late, hsplit, hearly, hask, ?_, hecho⟩
    rw [sentAlong] at hearly
    rw [hearly] at hsent
    exact List.append_cancel_left hsent

end RemoteDebug
