import RemoteDebug.Channel.Reading

/-!
# What a read takes

A read that fails gives no lines, so what it took is not in its result. It is what is gone from the
queue: every read leaves an end of the queue, and `linesTaken` are the lines before that end.
`awaitItems_of_ok` and `awaitItems_of_error` say which lines those are for a reader that waits, and
`linesTaken_of_drain` for one that drains; `awaitItems_append` says what items in front of the queue
do to a reader that has time.

To have time is to have a limit that is not reached before the last item: any but zero, as time does
not pass while items remain. A reader for whom it does pass is done exactly if its limit is not
reached before the line that it waits for (`isOk_awaitTimed_iff`), and then it reads the same
(`awaitTimed_eq_awaitItems`).
-/

namespace RemoteDebug

open RemoteDebug.Wire

/-! ## Lines in a queue -/

/-- The line that an item is, if it is one. -/
def Item.line? : Item → Option String
  | .line text => some text
  | .nothing | .fault _ => none

/-- The lines among items. -/
def linesOf (items : List Item) : List String :=
  items.filterMap Item.line?

/-- The items that a read took which found one queue and left another. -/
def itemsTaken (found left : List Item) : List Item :=
  found.take (found.length - left.length)

/-- The lines that a read took which found one queue and left another. -/
def linesTaken (found left : List Item) : List String :=
  linesOf (found.take (found.length - left.length))

@[simp] theorem linesOf_append (front back : List Item) :
    linesOf (front ++ back) = linesOf front ++ linesOf back :=
  List.filterMap_append

theorem linesOf_cons (item : Item) (rest : List Item) :
    linesOf (item :: rest) = linesOf [item] ++ linesOf rest :=
  linesOf_append [item] rest

@[simp] theorem linesOf_map_line (lines : List String) : linesOf (lines.map .line) = lines := by
  unfold linesOf
  rw [List.filterMap_map]
  exact List.filterMap_some

@[simp] theorem itemsTaken_append (front left : List Item) :
    itemsTaken (front ++ left) left = front := by
  simp [itemsTaken]

/-- What stands before the end that was left has been taken. -/
@[simp] theorem linesTaken_append (front left : List Item) :
    linesTaken (front ++ left) left = linesOf front := by
  simp [linesTaken]

namespace Channel

/-! ## Reading item by item -/

section

variable {step : Nat → Except Error (Option String) → ReadStep}
  {behind : Except Error (List String)} {item : Item}

theorem readItems_done (h : step 0 item.found = .done) (rest : List Item) :
    readItems step behind (item :: rest) = (.ok [], rest) := by
  rw [readItems, h]

theorem readItems_fails {cause : Error} (h : step 0 item.found = .fails cause)
    (rest : List Item) : readItems step behind (item :: rest) = (.error cause, rest) := by
  rw [readItems, h]

theorem readItems_goesOn {kept : Option String} (h : step 0 item.found = .goesOn kept)
    (rest : List Item) :
    readItems step behind (item :: rest) =
      ((readItems (fun polls => step (polls + 1)) behind rest).1.map (kept.toList ++ ·),
        (readItems (fun polls => step (polls + 1)) behind rest).2) := by
  rw [readItems, h]

end

/-! ## Awaiting by a clock -/

variable {awaited : Awaited} {limit : Duration} {clock : Nat → Duration}

theorem awaitTimed_arrived {text : String} (h : awaited.sight text = .arrived)
    (rest : List Item) : awaitTimed awaited limit clock (.line text :: rest) = (.ok [], rest) := by
  apply readItems_done
  simp only [Item.found, ReadStep.awaiting, h]

/-- Whether every read of some items succeeds: none of them is a fault. -/
def IsReadable (items : List Item) : Prop :=
  ∀ text, Item.fault text ∉ items

theorem IsReadable.of_cons {item : Item} {rest : List Item} (h : IsReadable (item :: rest)) :
    IsReadable [item] ∧ IsReadable rest :=
  ⟨fun text hmem => h text (List.mem_cons.mpr (.inl (List.mem_singleton.mp hmem))),
    fun text hmem => h text (List.mem_cons_of_mem item hmem)⟩

/-- An item is a fault, or the line that is waited for, or readable and not that line. -/
theorem faulty_or_arrived_or_passed (awaited : Awaited) (item : Item) :
    (∃ text, item = .fault text) ∨ (∃ text, item = .line text ∧ awaited.sight text = .arrived) ∨
      (IsReadable [item] ∧ ∀ line ∈ linesOf [item], awaited.sight line ≠ .arrived) := by
  cases item with
  | fault text => exact .inl ⟨text, rfl⟩
  | nothing => exact .inr (.inr ⟨by simp [IsReadable], by simp [linesOf, Item.line?]⟩)
  | line text =>
    by_cases hseen : awaited.sight text = .arrived
    · exact .inr (.inl ⟨text, rfl, hseen⟩)
    · exact .inr (.inr ⟨by simp [IsReadable], by simpa [linesOf, Item.line?] using hseen⟩)

/-- Behind a readable item that is not what it waits for a reader looks at the time. If it goes on,
it keeps the item if that is an ordinary line. -/
theorem awaiting_passed {item : Item} (hreadable : IsReadable [item])
    (hpassed : ∀ line ∈ linesOf [item], awaited.sight line ≠ .arrived) (limit waited : Duration) :
    ∃ kept : Option String, ReadStep.awaiting awaited limit waited item.found =
        ReadStep.awaiting.inTime awaited limit waited kept ∧
      kept.toList = (linesOf [item]).filter (awaited.sight · = .ordinary) := by
  cases item with
  | nothing => exact ⟨none, rfl, rfl⟩
  | fault text => exact absurd List.mem_cons_self (hreadable text)
  | line text =>
    cases hseen : awaited.sight text with
    | arrived => exact absurd hseen (hpassed text List.mem_cons_self)
    | leftover =>
      exact ⟨none, by simp only [Item.found, ReadStep.awaiting, hseen],
        by simp [linesOf, Item.line?, hseen]⟩
    | ordinary =>
      exact ⟨some text, by simp only [Item.found, ReadStep.awaiting, hseen],
        by simp [linesOf, Item.line?, hseen]⟩

/-- So it gives up there if its limit is reached, and reads on if not. -/
theorem awaitTimed_passed {item : Item} (hreadable : IsReadable [item])
    (hpassed : ∀ line ∈ linesOf [item], awaited.sight line ≠ .arrived) (rest : List Item) :
    awaitTimed awaited limit clock (item :: rest) =
      if limit.nanoseconds ≤ (clock 0).nanoseconds then
        (.error (waitedInVain awaited (clock 0)), rest)
      else
        ((awaitTimed awaited limit (fun polls => clock (polls + 1)) rest).1.map
          ((linesOf [item]).filter (awaited.sight · = .ordinary) ++ ·),
        (awaitTimed awaited limit (fun polls => clock (polls + 1)) rest).2) := by
  obtain ⟨kept, hstep, hkept⟩ := awaiting_passed hreadable hpassed limit (clock 0)
  rw [← hkept]
  unfold ReadStep.awaiting.inTime at hstep
  split
  · rename_i hlate
    rw [if_pos hlate] at hstep
    exact readItems_fails hstep rest
  · rename_i hearly
    rw [if_neg hearly] at hstep
    exact readItems_goesOn hstep rest

/-- Readable items in front of the queue with no line that is awaited cost a reader nothing whose
limit is not reached behind any of them: it reads on behind them, and gives the ordinary lines among
them with the rest. -/
theorem awaitTimed_append {front : List Item}
    (hclock : ∀ polls < front.length, (clock polls).nanoseconds < limit.nanoseconds)
    (hreadable : IsReadable front)
    (hfront : ∀ line ∈ linesOf front, awaited.sight line ≠ .arrived) (queue : List Item) :
    awaitTimed awaited limit clock (front ++ queue) =
      ((awaitTimed awaited limit (fun polls => clock (front.length + polls)) queue).1.map
        ((linesOf front).filter (awaited.sight · = .ordinary) ++ ·),
        (awaitTimed awaited limit (fun polls => clock (front.length + polls)) queue).2) := by
  induction front generalizing clock with
  | nil =>
    simp only [List.nil_append, List.length_nil, Nat.zero_add]
    rcases awaitTimed awaited limit clock queue with ⟨_ | _, _⟩ <;> rfl
  | cons item rest ih =>
    have hfirst : ¬limit.nanoseconds ≤ (clock 0).nanoseconds :=
      Nat.not_le.mpr (hclock 0 (Nat.zero_lt_succ _))
    have hlater : ∀ polls < rest.length, (clock (polls + 1)).nanoseconds < limit.nanoseconds :=
      fun polls hpolls => hclock (polls + 1) (Nat.succ_lt_succ hpolls)
    -- the clock behind the front is the same, whether it is counted from its second item or not
    have hshift : (fun polls => clock (rest.length + polls + 1)) =
        fun polls => clock ((item :: rest).length + polls) := by
      funext polls
      rw [List.length_cons, Nat.add_right_comm]
    obtain ⟨hitem, hrest⟩ := hreadable.of_cons
    rw [linesOf_cons] at hfront ⊢
    obtain ⟨hpassed, hothers⟩ := List.forall_mem_append.mp hfront
    rw [List.cons_append, awaitTimed_passed hitem hpassed, if_neg hfirst, ih hlater hrest hothers,
      hshift, List.filter_append]
    rcases awaitTimed awaited limit _ queue with ⟨_ | _, _⟩
    · rfl
    · simp only [Except.map, List.append_assoc]

/-- A reader is done exactly if its limit is not reached behind any of the readable items before the
line that it waits for. -/
theorem isOk_awaitTimed_iff {front : List Item} {last : String} (hreadable : IsReadable front)
    (hfront : ∀ line ∈ linesOf front, awaited.sight line ≠ .arrived)
    (hlast : awaited.sight last = .arrived) (rest : List Item) :
    (awaitTimed awaited limit clock (front ++ .line last :: rest)).1.isOk = true ↔
      ∀ polls < front.length, (clock polls).nanoseconds < limit.nanoseconds := by
  constructor
  · intro hdone
    induction front generalizing clock with
    | nil => exact fun polls hpolls => absurd hpolls (Nat.not_lt_zero polls)
    | cons item more ih =>
      obtain ⟨hitem, hmore⟩ := hreadable.of_cons
      rw [linesOf_cons] at hfront
      obtain ⟨hpassed, hothers⟩ := List.forall_mem_append.mp hfront
      rw [List.cons_append, awaitTimed_passed hitem hpassed] at hdone
      split at hdone
      · cases hdone
      · rename_i hearly
        have hlater : (awaitTimed awaited limit (fun polls => clock (polls + 1))
            (more ++ .line last :: rest)).1.isOk = true := by
          revert hdone
          rcases awaitTimed awaited limit _ (more ++ _) with ⟨_ | _, _⟩ <;> exact id
        intro polls hpolls
        cases polls with
        | zero => exact Nat.not_le.mp hearly
        | succ polls => exact ih hmore hothers hlater polls (Nat.lt_of_succ_lt_succ hpolls)
  · intro hclock
    rw [awaitTimed_append hclock hreadable hfront, awaitTimed_arrived hlast]
    rfl

/-- Where time does not run out before the awaited line, a reader reads as if it did not pass. -/
theorem awaitTimed_eq_awaitItems {front : List Item} {last : String}
    (hclock : ∀ polls < front.length, (clock polls).nanoseconds < limit.nanoseconds)
    (hreadable : IsReadable front)
    (hfront : ∀ line ∈ linesOf front, awaited.sight line ≠ .arrived)
    (hlast : awaited.sight last = .arrived) (rest : List Item) :
    awaitTimed awaited limit clock (front ++ .line last :: rest) =
      awaitItems awaited limit (front ++ .line last :: rest) := by
  have hstill : ∀ polls < front.length, (stillClock polls).nanoseconds < limit.nanoseconds :=
    fun polls hpolls => Nat.lt_of_le_of_lt (Nat.zero_le _) (hclock polls hpolls)
  unfold awaitItems
  rw [awaitTimed_append hclock hreadable hfront, awaitTimed_append hstill hreadable hfront,
    awaitTimed_arrived hlast, awaitTimed_arrived hlast]

/-! ## Awaiting while time does not pass -/

theorem awaitItems_arrived {text : String} (h : awaited.sight text = .arrived)
    (rest : List Item) : awaitItems awaited limit (.line text :: rest) = (.ok [], rest) :=
  awaitTimed_arrived h rest

/-- While time does not pass, the only limit that is reached is zero, and it is reached at once. -/
theorem awaitItems_passed {item : Item} (hreadable : IsReadable [item])
    (hpassed : ∀ line ∈ linesOf [item], awaited.sight line ≠ .arrived) (rest : List Item) :
    awaitItems awaited limit (item :: rest) =
      if limit.nanoseconds = 0 then (.error (waitedInVain awaited limit), rest)
      else
        ((awaitItems awaited limit rest).1.map
          ((linesOf [item]).filter (awaited.sight · = .ordinary) ++ ·),
        (awaitItems awaited limit rest).2) := by
  have hreached : limit.nanoseconds ≤ (stillClock 0).nanoseconds ↔ limit.nanoseconds = 0 :=
    Nat.le_zero
  unfold awaitItems
  rw [awaitTimed_passed hreadable hpassed]
  by_cases hnone : limit.nanoseconds = 0
  · have hlimit : stillClock 0 = limit := by
      cases limit
      cases hnone
      rfl
    rw [if_pos hnone, if_pos (hreached.mpr hnone), hlimit]
  · rw [if_neg hnone, if_neg (mt hreached.mp hnone)]
    rfl

theorem awaitItems_nothing (rest : List Item) :
    awaitItems awaited limit (.nothing :: rest) =
      if limit.nanoseconds = 0 then (.error (waitedInVain awaited limit), rest)
      else awaitItems awaited limit rest := by
  rw [awaitItems_passed (by simp [IsReadable]) (by simp [linesOf, Item.line?])]
  rcases awaitItems awaited limit rest with ⟨_ | _, _⟩ <;> rfl

/-- A line that is not awaited uses up the time of a reader that has none; another reader reads
on, and leaves the line out if it is a leftover. -/
theorem awaitItems_other {text : String} (h : awaited.sight text ≠ .arrived) (rest : List Item) :
    awaitItems awaited limit (.line text :: rest) =
      if limit.nanoseconds = 0 then (.error (waitedInVain awaited limit), rest)
      else ((awaitItems awaited limit rest).1.map
        ([text].filter (awaited.sight · = .ordinary) ++ ·), (awaitItems awaited limit rest).2) :=
  awaitItems_passed (by simp [IsReadable])
    (fun _ hmem => List.mem_singleton.mp hmem ▸ h) rest

/-- A reader that found what it waited for took all before it and the awaited line, and gives the
ordinary lines among those before. -/
theorem awaitItems_of_ok {queue left : List Item} {lines : List String}
    (h : awaitItems awaited limit queue = (.ok lines, left)) :
    ∃ front last, queue = front ++ .line last :: left ∧ awaited.sight last = .arrived ∧
      (∀ line ∈ linesOf front, awaited.sight line ≠ .arrived) ∧
      lines = (linesOf front).filter (awaited.sight · = .ordinary) := by
  induction queue generalizing lines with
  | nil => cases h
  | cons item rest ih =>
    obtain ⟨text, rfl⟩ | ⟨text, rfl, hseen⟩ | ⟨hreadable, hpassed⟩ :=
      faulty_or_arrived_or_passed awaited item
    · cases h
    · rw [awaitItems_arrived hseen] at h
      cases h
      exact ⟨[], text, rfl, hseen, by simp [linesOf], rfl⟩
    · rw [awaitItems_passed hreadable hpassed] at h
      split at h
      · simp at h
      · rcases hrest : awaitItems awaited limit rest with ⟨_ | later, left'⟩
        · simp [hrest, Except.map] at h
        · simp only [hrest, Except.map, Prod.mk.injEq, Except.ok.injEq] at h
          obtain ⟨rfl, rfl⟩ := h
          obtain ⟨front, last, rfl, hlast, hfront, rfl⟩ := ih hrest
          refine ⟨item :: front, last, rfl, hlast, ?_, ?_⟩
          · rw [linesOf_cons]
            exact List.forall_mem_append.mpr ⟨hpassed, hfront⟩
          · rw [linesOf_cons item front, List.filter_append]

/-- A reader that waited in vain took no line that it waited for. -/
theorem awaitItems_of_error {queue left : List Item} {cause : Error}
    (h : awaitItems awaited limit queue = (.error cause, left)) :
    ∃ front, queue = front ++ left ∧ ∀ line ∈ linesOf front, awaited.sight line ≠ .arrived := by
  induction queue with
  | nil =>
    cases h
    exact ⟨[], rfl, by simp [linesOf]⟩
  | cons item rest ih =>
    obtain ⟨text, rfl⟩ | ⟨text, rfl, hseen⟩ | ⟨hreadable, hpassed⟩ :=
      faulty_or_arrived_or_passed awaited item
    · cases h
      exact ⟨[.fault text], rfl, by simp [linesOf, Item.line?]⟩
    · rw [awaitItems_arrived hseen] at h
      cases h
    · rw [awaitItems_passed hreadable hpassed] at h
      split at h
      · cases h
        exact ⟨[item], rfl, hpassed⟩
      · rcases hrest : awaitItems awaited limit rest with ⟨_ | later, left'⟩
        · simp only [hrest, Except.map, Prod.mk.injEq, Except.error.injEq] at h
          obtain ⟨rfl, rfl⟩ := h
          obtain ⟨front, rfl, hfront⟩ := ih hrest
          refine ⟨item :: front, rfl, ?_⟩
          rw [linesOf_cons]
          exact List.forall_mem_append.mpr ⟨hpassed, hfront⟩
        · simp [hrest, Except.map] at h

/-- So readable items in front of the queue with no line that is awaited cost nothing to a reader
with time. -/
theorem awaitItems_append {front : List Item} (htime : limit.nanoseconds ≠ 0)
    (hreadable : IsReadable front)
    (hfront : ∀ line ∈ linesOf front, awaited.sight line ≠ .arrived) (queue : List Item) :
    awaitItems awaited limit (front ++ queue) =
      ((awaitItems awaited limit queue).1.map
        ((linesOf front).filter (awaited.sight · = .ordinary) ++ ·),
        (awaitItems awaited limit queue).2) :=
  awaitTimed_append (fun _ _ => Nat.pos_of_ne_zero htime) hreadable hfront queue

/-- The same of lines, which are readable. -/
theorem awaitItems_lines_append {front : List String} (htime : limit.nanoseconds ≠ 0)
    (hfront : ∀ line ∈ front, awaited.sight line ≠ .arrived) (queue : List Item) :
    awaitItems awaited limit (front.map .line ++ queue) =
      ((awaitItems awaited limit queue).1.map (front.filter (awaited.sight · = .ordinary) ++ ·),
        (awaitItems awaited limit queue).2) := by
  have hreadable : IsReadable (front.map .line) := fun text hmem => by simp at hmem
  have happend := awaitItems_append htime hreadable (by rwa [linesOf_map_line]) queue
  rwa [linesOf_map_line] at happend

/-- A reader with time that waits at readable items finds what it waits for behind any lines that
are not it, and takes all up to there. -/
theorem awaitItems_of_linesOf {items : List Item} {front behind : List String} {last : String}
    (htime : limit.nanoseconds ≠ 0) (hreadable : IsReadable items)
    (hlines : linesOf items = front ++ last :: behind)
    (hfront : ∀ line ∈ front, awaited.sight line ≠ .arrived)
    (hlast : awaited.sight last = .arrived) :
    ∃ left, awaitItems awaited limit items =
        (.ok (front.filter (awaited.sight · = .ordinary)), left) ∧
      linesOf left = behind ∧ IsReadable left := by
  induction items generalizing front with
  | nil => exact absurd hlines.symm (by simp [linesOf])
  | cons item rest ih =>
    have hrest := hreadable.of_cons.2
    cases item with
    | fault text => exact absurd List.mem_cons_self (hreadable text)
    | nothing =>
      obtain ⟨left, hread, hleft⟩ := ih hrest hlines hfront
      exact ⟨left, by rw [awaitItems_nothing, if_neg htime, hread], hleft⟩
    | line text =>
      have hcons : text :: linesOf rest = front ++ last :: behind := hlines
      cases front with
      | nil =>
        obtain ⟨rfl, hbehind⟩ := List.cons.inj hcons
        exact ⟨rest, awaitItems_arrived hlast rest, hbehind, hrest⟩
      | cons first later =>
        obtain ⟨rfl, hlater⟩ := List.cons.inj hcons
        obtain ⟨hfirst, hothers⟩ := List.forall_mem_cons.mp hfront
        obtain ⟨left, hread, hleft⟩ := ih hrest hlater hothers
        refine ⟨left, ?_, hleft⟩
        rw [awaitItems_other hfirst, if_neg htime, hread]
        exact congrArg (fun lines => (Except.ok lines, left))
          (List.filter_append [text] later).symm

/-! ## Draining -/

@[simp] theorem drainItems_nil (closed : Bool) :
    drainItems closed [] = (if closed then .error .channelClosed else .ok [], []) :=
  rfl

theorem drainItems_line (closed : Bool) (text : String) (rest : List Item) :
    drainItems closed (.line text :: rest) =
      ((drainItems closed rest).1.map (text :: ·), (drainItems closed rest).2) :=
  rfl

/-- A drain that succeeded took the lines that it gives, and no other. -/
theorem drainItems_of_ok {closed : Bool} {queue left : List Item} {lines : List String}
    (h : drainItems closed queue = (.ok lines, left)) :
    ∃ front, queue = front ++ left ∧ linesOf front = lines := by
  induction queue generalizing lines with
  | nil =>
    cases closed
    · cases h
      exact ⟨[], rfl, rfl⟩
    · cases h
  | cons item rest ih =>
    cases item with
    | fault text => cases h
    | nothing =>
      cases h
      exact ⟨[.nothing], rfl, rfl⟩
    | line text =>
      rw [drainItems_line] at h
      rcases hrest : drainItems closed rest with ⟨_ | later, left'⟩
      · simp [hrest, Except.map] at h
      · simp only [hrest, Except.map, Prod.mk.injEq, Except.ok.injEq] at h
        obtain ⟨rfl, rfl⟩ := h
        obtain ⟨front, rfl, hfront⟩ := ih hrest
        exact ⟨.line text :: front, rfl, congrArg (text :: ·) hfront⟩

/-- A drain gives the lines that stand before a moment without any. -/
theorem drainItems_lines (closed : Bool) (lines : List String) (rest : List Item) :
    drainItems closed (lines.map .line ++ .nothing :: rest) = (.ok lines, rest) := by
  induction lines with
  | nil => rfl
  | cons line later ih =>
    rw [List.map_cons, List.cons_append, drainItems_line, ih]
    rfl

/-- A drain that succeeded gives the lines that it took. -/
theorem linesTaken_of_drain {σ : Type} {channel after : Channel σ} {lines : List String}
    (h : channel.drain = (.ok lines, after)) : linesTaken channel.queue after.queue = lines := by
  unfold drain at h
  rcases hdrain : drainItems channel.closed channel.queue with ⟨_ | lines, left⟩
  · simp [hdrain] at h
  · simp only [hdrain, Prod.mk.injEq, Except.ok.injEq] at h
    obtain ⟨rfl, rfl⟩ := h
    obtain ⟨front, hqueue, rfl⟩ := drainItems_of_ok hdrain
    rw [hqueue, linesTaken_append]

/-- A drain takes items from the front of the queue. -/
theorem exists_taken_of_drain {σ : Type} (channel : Channel σ) :
    ∃ taken, channel.queue = taken ++ channel.drain.2.queue := by
  show ∃ taken, channel.queue = taken ++ (drainItems channel.closed channel.queue).2
  generalize channel.queue = queue
  induction queue with
  | nil => exact ⟨[], rfl⟩
  | cons item rest ih =>
    cases item with
    | line text =>
      obtain ⟨taken, htaken⟩ := ih
      exact ⟨.line text :: taken, congrArg (Item.line text :: ·) htaken⟩
    | nothing => exact ⟨[.nothing], rfl⟩
    | fault text => exact ⟨[.fault text], rfl⟩

/-! ## Conversing -/

section

variable {σ : Type} [Peer σ]

theorem exists_added_of_send (channel : Channel σ) (line : String) :
    ∃ added, (channel.send line).2.queue = channel.queue ++ added := by
  unfold send
  split
  · exact ⟨[], (List.append_nil _).symm⟩
  · split
    · exact ⟨[], (List.append_nil _).symm⟩
    · exact ⟨_, rfl⟩

/-- What is sent is answered behind what is queued. -/
theorem exists_added_of_sendAll (channel : Channel σ) (lines : List String) :
    ∃ added, (channel.sendAll lines).2.queue = channel.queue ++ added := by
  induction lines generalizing channel with
  | nil => exact ⟨[], (List.append_nil _).symm⟩
  | cons line rest ih =>
    have hsend := channel.exists_added_of_send line
    rw [sendAll]
    generalize channel.send line = sent at hsend ⊢
    rcases sent with ⟨cause | _, after⟩
    · exact hsend
    · obtain ⟨added, hadded⟩ := hsend
      obtain ⟨more, hmore⟩ := ih after
      refine ⟨added ++ more, hmore.trans ?_⟩
      rw [hadded, List.append_assoc]

/-- What a reader takes that first sends lines stands in front of what it leaves, whether it finds
what it waits for or not. -/
theorem exists_taken_of_converse (channel : Channel σ) (lines : List String) (awaited : Awaited)
    (limit : Duration) :
    ∃ taken, (channel.sendAll lines).2.queue =
      taken ++ (channel.converse lines awaited limit).2.queue := by
  unfold converse
  rcases channel.sendAll lines with ⟨cause | _, after⟩
  · exact ⟨[], rfl⟩
  · show ∃ taken, after.queue = taken ++ (awaitItems awaited limit after.queue).2
    rcases hread : awaitItems awaited limit after.queue with ⟨cause | reply, left⟩
    · obtain ⟨front, hfront, -⟩ := awaitItems_of_error hread
      exact ⟨front, hfront⟩
    · obtain ⟨front, last, hfront, -⟩ := awaitItems_of_ok hread
      exact ⟨front ++ [.line last], by rw [hfront, List.append_assoc]; rfl⟩

/-- A reader that found what it waited for took that one last, and gives the ordinary lines of what
it took. -/
theorem converse_of_ok {channel after : Channel σ} {lines reply : List String} {awaited : Awaited}
    {limit : Duration} (h : channel.converse lines awaited limit = (.ok reply, after)) :
    ∃ front last, itemsTaken (channel.sendAll lines).2.queue after.queue = front ++ [.line last] ∧
      awaited.sight last = .arrived ∧ (∀ line ∈ linesOf front, awaited.sight line ≠ .arrived) ∧
      reply = (linesOf (front ++ [.line last])).filter (awaited.sight · = .ordinary) := by
  unfold converse at h
  generalize channel.sendAll lines = outcome at h ⊢
  rcases outcome with ⟨cause | _, sent⟩
  · cases h
  · replace h : sent.await awaited limit = (.ok reply, after) := h
    unfold await at h
    rcases hread : awaitItems awaited limit sent.queue with ⟨_ | _, left⟩
    · rw [hread] at h
      cases h
    · rw [hread] at h
      cases h
      obtain ⟨front, last, hfront, hlast, hnone, rfl⟩ := awaitItems_of_ok hread
      refine ⟨front, last, ?_, hlast, hnone, ?_⟩
      · show itemsTaken sent.queue left = _
        rw [hfront, List.append_cons, itemsTaken_append]
      · rw [linesOf_append, List.filter_append]
        simp [linesOf, Item.line?, hlast]

end

end Channel

end RemoteDebug
