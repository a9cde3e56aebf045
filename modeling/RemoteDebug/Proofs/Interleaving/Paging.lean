import Mathlib.Tactic.MkIffOfInductiveProp
import RemoteDebug.Proofs.Decode.Listings
import RemoteDebug.Proofs.Interleaving.Looks

/-!
# Paging through the disassembly

A page forward starts at the line that the console showed last, and a line forward at the second
one, as far as the address space allows, whatever else was asked or failed in between; so both make
progress and skip nothing (`page_forward_continues`).

A page back starts a screen of the longest instructions before the first line and ends where the
second line begins, and shows as many lines as there are on a screen, from its start on. At least so
many instructions stand before the line that was shown first, so it is never among them, and if one
of these instructions is shorter than the longest, there are some between the two screens that
neither shows (`page_back_stops_short`).
-/

namespace RemoteDebug

open RemoteDebug.Decode RemoteDebug.Wire Window

variable {σ : Type}

/-! ## What a refresh of the disassembly leaves -/

namespace Session

variable {session : Session} {cursor : Cursor} {move : Move} {target : TargetState}
  {listing : Listing}

/-- With the focus on the disassembly, its window is the one that the move leads to, and the
position starts there. -/
theorem HasLooked.disassembled (h : session.HasLooked cursor move target)
    (hfocus : session.focus = .disassembly) :
    ∃ window, session.currentWindow = some window ∧
      disassemblyWindow cursor move session.settings.lines = .ok window ∧
      target.first = some window.first := by
  have hfocused := h.focused
  have hfirst := h.first
  rw [hfocus] at hfocused hfirst
  obtain ⟨window, hwindow, hcurrent⟩ := ok_of_map hfocused
  rw [← hcurrent] at hfirst
  refine ⟨window, ?_, hwindow, hfirst⟩
  unfold currentWindow
  rw [hfocus]
  exact hcurrent.symm

/-- What continues the screen is what the listing says. -/
theorem HasLooked.listed (h : session.HasLooked cursor move target)
    (hfocus : session.focus = .disassembly)
    (hlisting : session.shown.disassembly = some (.ok (.disassembly listing))) :
    target.second = listing.secondAddress ∧
      target.last = listing.lastShownAddress session.settings.lines := by
  obtain ⟨window, hcurrent, -, -⟩ := h.disassembled hfocus
  unfold currentWindow at hcurrent
  rw [hfocus] at hcurrent
  obtain ⟨-, hsecond, hlast⟩ := TargetState.of_cursor h.placed
  rw [positionAfter_listing hfocus hcurrent hlisting] at hsecond hlast
  exact ⟨hsecond, hlast⟩

end Session

/-! ## Windows of a page -/

section

variable {cursor : Cursor} {lines : Nat} {window : Window}

theorem View.screen_disassembly (hlines : 0 < lines) :
    View.disassembly.screen lines = instructionWidth * lines := by
  show max lines 1 * instructionWidth = _
  rw [Nat.max_eq_left hlines, Nat.mul_comm]

/-- Where a screen starts that is wanted at an address: there, or so early that it ends in the
space. -/
theorem nearestStart_screen (hlines : 0 < lines) (address : Nat) :
    nearestStart (View.disassembly.screen lines) address =
      max 0 (min (address : Int) (maxAddress - instructionWidth * lines)) := by
  rw [View.screen_disassembly hlines]
  rfl

/-- A page forward starts at the last line, if it is known. -/
theorem disassemblyWindow_page {last : Nat} (hlast : cursor.last = some last)
    (h : disassemblyWindow cursor ⟨.large, .forward⟩ lines = .ok window) :
    (window.first : Int) = nearestStart (View.disassembly.screen lines) last := by
  obtain ⟨found, hfound, hfirst, -⟩ := disassemblyWindow_spec cursor ⟨.large, .forward⟩ lines
  rw [h] at hfound
  obtain rfl := Except.ok.inj hfound
  simpa only [disassemblyRange, hlast] using hfirst

/-- A line forward starts at the second line, if it is known. -/
theorem disassemblyWindow_line {second : Nat} (hsecond : cursor.second = some second)
    (h : disassemblyWindow cursor ⟨.medium, .forward⟩ lines = .ok window) :
    (window.first : Int) = nearestStart (View.disassembly.screen lines) second := by
  obtain ⟨found, hfound, hfirst, -⟩ := disassemblyWindow_spec cursor ⟨.medium, .forward⟩ lines
  rw [h] at hfound
  obtain rfl := Except.ok.inj hfound
  simpa only [disassemblyRange, hsecond] using hfirst

/-- A page forward behind a listing starts at the line that the console showed last, as far as the
space allows. -/
theorem page_starts_at_last_shown {listing : Listing} {shownLines : Nat}
    (hnonempty : listing.instructions ≠ []) (hshown : 0 < shownLines) (hlines : 0 < lines)
    (hlast : cursor.last = listing.lastShownAddress shownLines)
    (h : disassemblyWindow cursor ⟨.large, .forward⟩ lines = .ok window) :
    ∃ told, listing.instructions[min listing.instructions.length shownLines - 1]? = some told ∧
      (Console.disassemblyLines listing shownLines).getLast? =
        some (Console.instructionLine told) ∧
      (window.first : Int) =
        max 0 (min (told.address : Int) (maxAddress - instructionWidth * lines)) := by
  have hcount := List.length_pos_iff.mpr hnonempty
  have hindex : min listing.instructions.length shownLines - 1 < listing.instructions.length := by
    omega
  have htold := List.getElem?_eq_getElem hindex
  obtain ⟨haddress, hline⟩ :=
    Listing.getLast?_disassemblyLines ((listing.getLast?_shown hshown).trans htold)
  refine ⟨_, htold, hline, ?_⟩
  rw [disassemblyWindow_page (hlast.trans haddress) h]
  exact nearestStart_screen hlines _

/-- A line forward behind a listing starts at its second line, as far as the space allows. -/
theorem line_starts_at_second {listing : Listing} {told : Instruction} (hlines : 0 < lines)
    (htold : listing.instructions[1]? = some told) (hsecond : cursor.second = listing.secondAddress)
    (h : disassemblyWindow cursor ⟨.medium, .forward⟩ lines = .ok window) :
    (window.first : Int) =
      max 0 (min (told.address : Int) (maxAddress - instructionWidth * lines)) := by
  have haddress : listing.secondAddress = some told.address := by
    unfold Listing.secondAddress
    rw [htold]
    rfl
  rw [disassemblyWindow_line (hsecond.trans haddress) h]
  exact nearestStart_screen hlines _

end

/-! ## Paging forward -/

/-- A run in which the disassembly goes forward: some turns, the turn at which a refresh shows a
listing that is not empty, turns that leave alone what is displayed, and the turn at which a refresh
with a move succeeds. There are `lines` on the screen first and `nextLines` then. -/
@[mk_iff] structure GoesForward [Peer σ] (start : Scene σ) (early : List Turn) (shown : Turn)
    (calm : List Turn) (last : Turn) (move : Move) (listing : Listing) (lines nextLines : Nat) :
    Prop where
  refreshes : (Moment.mk (start.play early) shown).refreshes = true
  focused : ((start.play early).after shown).session.focus = .disassembly
  listed : ((start.play early).after shown).session.shown.disassembly =
    some (.ok (.disassembly listing))
  nonempty : listing.instructions ≠ []
  lines_eq : ((start.play early).after shown).session.settings.lines = lines
  lines_pos : 0 < lines
  next : NextRefresh ((start.play early).after shown) calm last move
  nextLines_eq : ((((start.play early).after shown).play calm).after last).session.settings.lines =
    nextLines
  nextLines_pos : 0 < nextLines

instance [Peer σ] (start : Scene σ) (early : List Turn) (shown : Turn) (calm : List Turn)
    (last : Turn) (move : Move) (listing : Listing) (lines nextLines : Nat) :
    Decidable (GoesForward start early shown calm last move listing lines nextLines) :=
  decidable_of_iff _ (goesForward_iff ..).symm

/-- Going forward in the disassembly, a page starts at the line that the console showed last, and a
line at the second line of the listing, or so early that the screen ends in the address space; and
where there is room and the listing ascends, both get on. -/
theorem page_forward_continues [Peer σ] {settings : Settings} {channel : Channel σ}
    {tokensTaken : Nat} {early calm : List Turn} {shown last : Turn} {move : Move}
    {listing : Listing} {lines nextLines : Nat}
    (h : GoesForward (.opening settings channel tokensTaken) early shown calm last move listing
      lines nextLines) :
    let behind := ((Scene.opening settings channel tokensTaken).play early).after shown
    let next := (behind.play calm).after last
    let room : Int := maxAddress - instructionWidth * nextLines
    ∃ old window, behind.session.currentWindow = some old ∧
      behind.world.target.first = some old.first ∧
      next.session.currentWindow = some window ∧
      next.world.target.first = some window.first ∧
      (move = ⟨.large, .forward⟩ →
        ∃ told, listing.instructions[min listing.instructions.length lines - 1]? = some told ∧
          (Console.disassemblyLines listing lines).getLast? = some (Console.instructionLine told) ∧
          (window.first : Int) = max 0 (min (told.address : Int) room)) ∧
      (move = ⟨.medium, .forward⟩ → ∀ told, listing.instructions[1]? = some told →
        (window.first : Int) = max 0 (min (told.address : Int) room)) ∧
      (move = ⟨.large, .forward⟩ ∨ move = ⟨.medium, .forward⟩ →
        1 < listing.instructions.length → 1 < lines → listing.AscendsFrom old.first →
        (old.first : Int) < room → old.first < window.first) := by
  intro behind next room
  obtain ⟨display, hkeeps, -⟩ := Scene.exists_keepsDisplay settings channel tokensTaken early
  obtain ⟨task, before, moved, -, -, hbehind, -⟩ := hkeeps.hasLooked h.refreshes
  obtain ⟨old, hold, -, holdFirst⟩ := hbehind.disassembled h.focused
  obtain ⟨hsecond, hlast⟩ := hbehind.listed h.focused h.listed
  rw [h.lines_eq] at hlast
  have hbehindKeeps := (hkeeps.renewed (Moment.ends_of_refreshes h.refreshes)).2
  obtain ⟨hfocus, cursor, hcursorSecond, hcursorLast, -, hnext⟩ := h.next.hasLooked hbehindKeeps
  obtain ⟨window, hwindow, hplanned, hwindowFirst⟩ := hnext.disassembled (hfocus.trans h.focused)
  rw [h.nextLines_eq] at hplanned
  -- where a page and a line forward start, which is also what gets them on
  have hpage (hmove : move = ⟨.large, .forward⟩) :=
    page_starts_at_last_shown h.nonempty h.lines_pos h.nextLines_pos (hcursorLast.trans hlast)
      (hmove ▸ hplanned)
  have hline (hmove : move = ⟨.medium, .forward⟩) (told : Instruction)
      (htold : listing.instructions[1]? = some told) :=
    line_starts_at_second h.nextLines_pos htold (hcursorSecond.trans hsecond) (hmove ▸ hplanned)
  refine ⟨old, window, hold, holdFirst, hwindow, hwindowFirst, hpage, hline, ?_⟩
  intro hmove hcount hlines hascends hroom
  have hgets (index : Nat) (told : Instruction) (hindex : 0 < index)
      (htold : listing.instructions[index]? = some told)
      (hfirst : (window.first : Int) = max 0 (min (told.address : Int) room)) :
      old.first < window.first := by
    have hbeyond := hascends.lt_address hindex htold
    omega
  rcases hmove with hmove | hmove
  · obtain ⟨told, htold, -, hfirst⟩ := hpage hmove
    exact hgets _ told (by omega) htold hfirst
  · have htold := List.getElem?_eq_getElem hcount
    exact hgets 1 _ (by omega) htold (hline hmove _ htold)

/-- Instructions that do nothing, at such addresses. -/
def nopsAt (addresses : List Nat) : List Instruction :=
  addresses.map fun address => { address, symbol := "-", text := "nop" }

/-- A target that answers the first requests for instructions with listings of such addresses. -/
def listingAt (listings : List (List Nat)) : Channel Simulator.Link where
  peer := { machine := {
    script := [("disasm", listings.map fun addresses =>
      .line "#disasm 000000" ::
        (addresses.map fun address => .line ("- $" ++ Hex.lower 6 address ++ " nop")) ++
        [.line "##"])] } }

/-- A user who refreshes the views with a move, up to the turn at which that succeeds. -/
def moving (move : Move) : List Turn :=
  .begin (.refresh move) :: List.replicate 7 (.proceed true)

/-- On a screen of two lines, the page behind a listing of three starts at the second, which is
behind the first. -/
theorem page_forward_of_two_lines :
    GoesForward (.opening { lines := 2 } (listingAt [[0x1000, 0x1002, 0x1004], []]) 0)
      (visiting [.disassembly] 0x1000) (.proceed true) (moving ⟨.large, .forward⟩) (.proceed true)
      ⟨.large, .forward⟩ ⟨0, nopsAt [0x1000, 0x1002, 0x1004]⟩ 2 2 ∧
    let behind := ((Scene.opening { lines := 2 } (listingAt [[0x1000, 0x1002, 0x1004], []]) 0).play
      (visiting [.disassembly] 0x1000)).after (.proceed true)
    let next := (behind.play (moving ⟨.large, .forward⟩)).after (.proceed true)
    ∃ old window, behind.session.currentWindow = some old ∧
      next.session.currentWindow = some window ∧ window.first = 0x1002 ∧
      old.first < window.first := by
  have h : GoesForward (.opening { lines := 2 } (listingAt [[0x1000, 0x1002, 0x1004], []]) 0)
      (visiting [.disassembly] 0x1000) (.proceed true) (moving ⟨.large, .forward⟩) (.proceed true)
      ⟨.large, .forward⟩ ⟨0, nopsAt [0x1000, 0x1002, 0x1004]⟩ 2 2 := by decide +kernel
  have hstarts :
      (((Scene.opening { lines := 2 } (listingAt [[0x1000, 0x1002, 0x1004], []]) 0).play
        (visiting [.disassembly] 0x1000)).after (.proceed true)).world.target.first =
          some 0x1000 := by decide +kernel
  have hgoes := page_forward_continues h
  refine ⟨h, ?_⟩
  -- from here on the run counts no more
  generalize ((Scene.opening { lines := 2 } (listingAt [[0x1000, 0x1002, 0x1004], []]) 0).play
    (visiting [.disassembly] 0x1000)).after (.proceed true) = behind at hstarts hgoes ⊢
  obtain ⟨old, window, hold, holdFirst, hwindow, -, hpage, -, hgetsOn⟩ := hgoes
  have hfirst : old.first = 0x1000 := Option.some.inj (holdFirst.symm.trans hstarts)
  have hascends : Listing.AscendsFrom ⟨0, nopsAt [0x1000, 0x1002, 0x1004]⟩ old.first := by
    rw [hfirst]
    exact ⟨by decide, by decide⟩
  have hroom : (old.first : Int) < maxAddress - instructionWidth * (2 : Nat) := by
    rw [hfirst]
    decide
  obtain ⟨told, htold, -, hstart⟩ := hpage rfl
  cases htold
  exact ⟨old, window, hold, hwindow, Int.ofNat_inj.mp hstart,
    hgetsOn (.inl rfl) (by decide) (by decide) hascends hroom⟩

/-! ## Paging back -/

/-- A run in which the disassembly goes back by a page of `lines` lines: some turns behind which it
shows a screen whose first two lines are known, turns that leave alone what is displayed, and the
turn at which the refresh succeeds that shows a listing. There is room in the address space for what
it asks for. -/
@[mk_iff] structure PagesBack [Peer σ] (start : Scene σ) (early calm : List Turn) (last : Turn)
    (first second lines : Nat) (listing : Listing) : Prop where
  focused : (start.play early).session.focus = .disassembly
  starts : (start.play early).world.target.first = some first
  continues : (start.play early).world.target.second = some second
  next : NextRefresh (start.play early) calm last ⟨.large, .backward⟩
  listed : (((start.play early).play calm).after last).session.shown.disassembly =
    some (.ok (.disassembly listing))
  lines_eq : (((start.play early).play calm).after last).session.settings.lines = lines
  lines_pos : 0 < lines
  first_lt_second : first < second
  second_le_max : second ≤ maxAddress
  has_room : instructionWidth * lines ≤ first

instance [Peer σ] (start : Scene σ) (early calm : List Turn) (last : Turn)
    (first second lines : Nat) (listing : Listing) :
    Decidable (PagesBack start early calm last first second lines listing) :=
  decidable_of_iff _ (pagesBack_iff ..).symm

/-- A page back that has room asks for a screen of the longest instructions, up to the line that is
shown second. -/
theorem disassemblyWindow_back {cursor : Cursor} {lines second : Nat} {window : Window}
    (h : disassemblyWindow cursor ⟨.large, .backward⟩ lines = .ok window) (hlines : 0 < lines)
    (hsecond : cursor.second = some second) (hlt : cursor.first < second)
    (hmax : second ≤ maxAddress) :
    window.first = cursor.first - instructionWidth * lines ∧ window.last = second := by
  obtain ⟨found, hfound, hfills⟩ := disassemblyWindow_fills cursor ⟨.large, .backward⟩ lines
  rw [h] at hfound
  obtain rfl := Except.ok.inj hfound
  have hends : View.disassembly.EndsAtSecond cursor ⟨.large, .backward⟩ lines second :=
    ⟨rfl, rfl, hsecond, Nat.lt_of_le_of_lt (Nat.sub_le _ _) hlt⟩
  have hrange := (hfills.cut second hends).2 hmax
  rwa [View.screen_disassembly hlines] at hrange

/-- Whether a listing covers a range with instructions of such sizes, two bytes at least, and has
`line` behind `front`. -/
structure CoversWith (listing : Listing) (start stop : Nat) (sizes : List Nat)
    (front : List Instruction) (line : Instruction) (back : List Instruction) : Prop where
  split : listing.instructions = front ++ line :: back
  laidOut : LaidOut start listing.instructions sizes stop
  two_le : ∀ size ∈ sizes, 2 ≤ size
  le_width : ∀ size ∈ sizes, size ≤ instructionWidth

/-- Where the reply to a page back covers its window with instructions, one of them that which was
shown first, the console shows only instructions before that one, and the position goes on from one
of them. None of these is left unshown exactly if all are as long as instructions can be. -/
theorem page_back_stops_short [Peer σ] {settings : Settings} {channel : Channel σ}
    {tokensTaken : Nat} {early calm : List Turn} {last : Turn} {first second lines : Nat}
    {listing : Listing} {front back : List Instruction} {line : Instruction} {sizes : List Nat}
    (h : PagesBack (.opening settings channel tokensTaken) early calm last first second lines
      listing)
    (hcovers : CoversWith listing (first - instructionWidth * lines) second sizes front line back)
    (hline : line.address = first) :
    let next := (((Scene.opening settings channel tokensTaken).play early).play calm).after last
    (∃ window, next.session.currentWindow = some window ∧
      window.first = first - instructionWidth * lines ∧ window.last = second) ∧
    (∀ told ∈ front, told.address < first) ∧
    Console.disassemblyLines listing lines = (front.take lines).map Console.instructionLine ∧
    (∃ told ∈ front, next.world.target.last = some told.address) ∧
    (front.drop lines = [] ↔ ∀ size ∈ sizes.take front.length, size = instructionWidth) := by
  intro next
  obtain ⟨hsplit, hlaidOut, htwo, hwidth⟩ := hcovers
  obtain ⟨display, hkeeps, -⟩ := Scene.exists_keepsDisplay settings channel tokensTaken early
  obtain ⟨hfocus, cursor, hsecond, -, hfirst, hnext⟩ := h.next.hasLooked hkeeps
  have hfirst := hfirst first h.starts
  have hfocused := hfocus.trans h.focused
  obtain ⟨window, hwindow, hplanned, -⟩ := hnext.disassembled hfocused
  obtain ⟨-, hlast⟩ := hnext.listed hfocused h.listed
  rw [h.lines_eq] at hplanned hlast
  have hrange := disassemblyWindow_back hplanned h.lines_pos (hsecond.trans h.continues)
    (by rw [hfirst]; exact h.first_lt_second) h.second_le_max
  rw [hfirst] at hrange
  rw [hsplit] at hlaidOut
  have hfar : line.address = first - instructionWidth * lines + instructionWidth * lines := by
    rw [hline, Nat.sub_add_cancel h.has_room]
  obtain ⟨hcount, hunshown⟩ := hlaidOut.length_before hwidth hfar
  -- so the screen is full before the line that was shown first
  obtain ⟨hrendered, told, htold, hlastShown⟩ := Listing.shown_before hsplit h.lines_pos hcount
  refine ⟨⟨window, hwindow, hrange⟩, ?_, hrendered, ⟨told, htold, hlast.trans hlastShown⟩, hunshown⟩
  obtain ⟨hbefore, -⟩ := hlaidOut.split
  rw [← hline]
  refine hbefore.address_lt fun size hsize => ?_
  have hsome := htwo size (List.mem_of_mem_take hsize)
  omega

/-- Where all instructions are as long as they can be, the screens meet, but do not overlap. -/
theorem page_back_over_long_instructions :
    (PagesBack (.opening { lines := 2 } (listingAt [[0x1000, 0x1002], [0xff4, 0xffa, 0x1000]]) 0)
        (visiting [.disassembly] 0x1000 ++ [.proceed true]) (moving ⟨.large, .backward⟩)
        (.proceed true) 0x1000 0x1002 2 ⟨0, nopsAt [0xff4, 0xffa, 0x1000]⟩ ∧
      CoversWith ⟨0, nopsAt [0xff4, 0xffa, 0x1000]⟩ (0x1000 - instructionWidth * 2) 0x1002 [6, 6, 2]
        (nopsAt [0xff4, 0xffa]) ⟨0x1000, "-", "nop"⟩ []) ∧
    Console.disassemblyLines ⟨0, nopsAt [0xff4, 0xffa, 0x1000]⟩ 2 =
      (nopsAt [0xff4, 0xffa]).map Console.instructionLine ∧
    (nopsAt [0xff4, 0xffa]).drop 2 = [] := by
  have h : PagesBack
      (.opening { lines := 2 } (listingAt [[0x1000, 0x1002], [0xff4, 0xffa, 0x1000]]) 0)
      (visiting [.disassembly] 0x1000 ++ [.proceed true]) (moving ⟨.large, .backward⟩)
      (.proceed true) 0x1000 0x1002 2 ⟨0, nopsAt [0xff4, 0xffa, 0x1000]⟩ := by decide +kernel
  have hcovers : CoversWith ⟨0, nopsAt [0xff4, 0xffa, 0x1000]⟩ (0x1000 - instructionWidth * 2)
      0x1002 [6, 6, 2] (nopsAt [0xff4, 0xffa]) ⟨0x1000, "-", "nop"⟩ [] :=
    ⟨rfl, .cons rfl (.cons rfl (.cons rfl (.nil _))), by decide, by decide⟩
  obtain ⟨-, -, hrendered, -, hunshown⟩ := page_back_stops_short h hcovers rfl
  exact ⟨⟨h, hcovers⟩, hrendered, hunshown.mpr (by decide)⟩

/-- Over short instructions a page back shows two lines well before the line that was shown first,
and what lies between is left out. -/
theorem page_back_over_short_instructions :
    let listing : Listing :=
      ⟨0, nopsAt [0xff4, 0xff6, 0xff8, 0xffa, 0xffc, 0xffe, 0x1000]⟩
    PagesBack
        (.opening { lines := 2 }
          (listingAt [[0x1000, 0x1002], [0xff4, 0xff6, 0xff8, 0xffa, 0xffc, 0xffe, 0x1000]]) 0)
        (visiting [.disassembly] 0x1000 ++ [.proceed true]) (moving ⟨.large, .backward⟩)
        (.proceed true) 0x1000 0x1002 2 listing ∧
      CoversWith listing (0x1000 - instructionWidth * 2) 0x1002 (List.replicate 7 2)
        (nopsAt [0xff4, 0xff6, 0xff8, 0xffa, 0xffc, 0xffe]) ⟨0x1000, "-", "nop"⟩ [] ∧
      listing.lastShownAddress 2 = some 0xff6 ∧
      ¬ ∃ line ∈ listing.instructions.take 2, line.address = 0x1000 := by
  intro listing
  refine ⟨by decide +kernel, ⟨rfl, ?_, by decide, by decide⟩, by decide, by decide⟩
  exact .cons rfl (.cons rfl (.cons rfl (.cons rfl (.cons rfl (.cons rfl (.cons rfl (.nil _)))))))

end RemoteDebug
