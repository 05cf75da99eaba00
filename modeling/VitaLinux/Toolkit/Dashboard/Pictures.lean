import VitaLinux.Toolkit.Dashboard.Shows

/-!
# What reaches the framebuffer

Each frame is the picture of its own screen: nothing of an earlier one shows through, and the
padding of the rows stays zero.
-/

namespace VitaLinux.Toolkit.Dashboard

open VitaLinux.Base

variable {abi : Abi} {options : Options abi} {started : SizeT abi} {first loop : Loop abi}

/-- A byte that drawing can store is a byte of a visible pixel. -/
theorem Frame.Sound.byte_of_reachable {f : Frame abi} (sound : f.Sound) {k : Nat}
    (reached : f.Reachable k) : ∃ px py, f.Visible px py ∧ f.Byte px py k := by
  obtain ⟨x, y, hx, hy, byte⟩ := reached
  have visible := Renderer.visible_of_reachable hx hy byte
  obtain ⟨px, rfl⟩ : ∃ px : Nat, x = px := ⟨x.toNat, by omega⟩
  obtain ⟨py, rfl⟩ : ∃ py : Nat, y = py := ⟨y.toNat, by omega⟩
  have seen : f.Visible px py := ⟨by omega, by omega⟩
  have depth := sound.depth
  refine ⟨px, py, seen, ?_⟩
  unfold pixelBytes at byte
  split at byte
  · cases byte
  split at byte
  · cases byte
  dsimp only at byte
  split at byte
  · cases byte
  simp only [BitVec.ofInt_natCast] at byte
  rw [Renderer.toNat_offset sound.toApart seen] at byte
  unfold Byte
  split at byte
  · rename_i fourth
    have four : 4 ≤ f.bytesPerPixel.toNat := fourth
    simp only [List.cons_append, List.nil_append, List.mem_cons, List.not_mem_nil, or_false]
      at byte
    omega
  · simp only [List.cons_append, List.nil_append, List.mem_cons, List.not_mem_nil, or_false]
      at byte
    omega

/-- The shadow holds the picture of the shot's screen, and of nothing else. -/
structure Shot.Pictures (blank : Renderer abi) (shot : Shot abi) (picture : Nat → UInt8) :
    Prop where
  /-- It is what the screen's calls draw on a blank shadow. -/
  drawn : ∃ calls fresh,
    drawScreen blank shot.screen shot.status shot.input shot.runtime shot.frames = some calls ∧
      blank.drawAll calls = some fresh ∧ fresh.shadow = some picture
  /-- It is handed over whole, to an owner that takes it. -/
  handed : ∃ io, shot.entry.call = .writeFrame (some picture) blank.frameBytes io
  taken : ¬shot.entry.before.Refuses (some picture) blank.frameBytes
  delivered : shot.entry.outcome.status = some 0 →
    shot.entry.outcome.effects = [.frame (slice picture 0 blank.frameBytes.toNat)]
  padding : ∀ row k : Nat, k < blank.frameBytes.toNat →
    row * blank.stride.toNat + blank.width.toNat * blank.bytesPerPixel.toNat ≤ k →
      k < (row + 1) * blank.stride.toNat → picture k = 0

theorem Reaches.drawing {blank : Renderer abi} {turns : List (Turn abi)} {shots : List (Shot abi)}
    (h : Reaches options started first turns shots loop) (start : Drawing blank first) :
    Drawing blank loop := by
  induction h with
  | start => exact start
  | pass t shot renderer earlier goes ih => exact ih.pass goes

/-- The frame of a pass is the picture that its screen gives on a blank shadow. -/
theorem Shot.Composed.pictures {blank : Renderer abi} {t : Turn abi} {shot : Shot abi}
    {renderer : Renderer abi} (composed : shot.Composed options started loop t renderer)
    (h : Drawing blank loop) (empty : Blank blank) : ∃ picture, shot.Pictures blank picture := by
  obtain ⟨earlier, drawn⟩ := h.drawn
  obtain ⟨calls, -, screen, screen'⟩ := empty.calls drawn h.bounded loop.screen loop.status
    shot.runtime shot.frames
  have painted := composed.drawn
  rw [screen'] at painted
  change loop.renderer.drawAll _ = some renderer at painted
  have alike := Renderer.drawAll_fresh empty.narrow drawn COL_BG calls
  rw [painted] at alike
  obtain ⟨fresh, drawnFresh, shadow⟩ := Option.map_eq_some_iff.mp alike.symm
  obtain ⟨memory, blankShadow, zero⟩ := empty.zero
  obtain ⟨-, kept⟩ := Renderer.drawAll_kept drawnFresh
  obtain ⟨⟨picture, holds⟩, -⟩ := empty.holds drawnFresh
  obtain ⟨-, size⟩ := empty.holds ((Renderer.drawAll_append drawn).trans painted)
  have entry := composed.entry
  rw [← shadow, holds, size] at entry
  have taken : ¬loop.session.Refuses (some picture) blank.frameBytes := by
    rintro (state | null | length)
    · exact state h.owned
    · cases null
    · exact length h.size.symm
  refine ⟨picture, ⟨.clear COL_BG :: calls, fresh, ?_, drawnFresh, holds⟩, ?_, ?_, ?_, ?_⟩
  · rw [composed.screen, composed.status, composed.input]
    exact screen
  · exact ⟨t.frame, congrArg Entry.call entry⟩
  · rw [entry]
    exact taken
  · intro written
    rw [entry] at written ⊢
    obtain ⟨shadow', same, -, effects⟩ := Session.writeFrame_written written
    obtain rfl := Option.some.inj same
    exact effects
  · intro row k inside low high
    have unreached : ¬blank.frame.Reachable k := by
      intro reached
      obtain ⟨px, py, seen, byte⟩ := empty.sound.byte_of_reachable reached
      exact empty.sound.padding_apart seen low high byte
    have cell := kept k unreached
    simp only [Renderer.canvas, holds, blankShadow, Option.map_some, Option.some.injEq] at cell
    rw [cell]
    exact zero k inside

theorem runLoop_defined {blank : Renderer abi} (start : Drawing blank first)
    (empty : Blank blank) (turns : List (Turn abi)) :
    (runLoop options started first turns).ends ≠ .undefined := by
  have start' : Reaches options started first [] [] first := .start
  rcases runLoop_reaches start' turns with ⟨ends, -⟩ |
    ⟨front, made, t, rest, result, middle, -, reached, last, -, run⟩
  · rw [ends]
    simp
  · rw [run]
    have drawing := reached.drawing start
    cases last with
    | undefined nothing => exact absurd nothing (drawing.defined empty _ _)
    | left | writing | unwritten | stops | goesOn => simp

theorem finish_undefined {io : DashboardIo abi} {entries : List (Entry abi)} {ran : LoopRun abi}
    (undefined : (finish options io entries ran).exit = .undefined) : ran.ends = .undefined := by
  obtain ⟨loop, shots, ends⟩ := ran
  cases ends with
  | undefined => rfl
  | goesOn | writing | breaks => cases undefined

/-- **Each frame is the picture of its own screen.** On a geometry that does not wrap, of three
bytes a pixel or more, every pass can draw, and what it hands over is what its screen gives on a
blank shadow. -/
theorem dashboard_pictures (io : DashboardIo abi) (bind0 : Option Bool)
    (args : List (List UInt8)) {options : Options abi}
    (parsed : parseArgs (.default abi) args = .options options)
    (depth : 24 ≤ ((FbOwner.init abi).probe io.probe bind0).1.bpp.toNat)
    (unwrapped : Unwrapped abi ((FbOwner.init abi).probe io.probe bind0).1.width
      ((FbOwner.init abi).probe io.probe bind0).1.height
      ((FbOwner.init abi).probe io.probe bind0).1.bpp
      ((FbOwner.init abi).probe io.probe bind0).1.stride) :
    (main io bind0 args).exit ≠ .undefined ∧
      ∀ shot ∈ (main io bind0 args).shots, ∃ blank picture,
        Renderer.init io.malloc ((FbOwner.init abi).probe io.probe bind0).1.width
            ((FbOwner.init abi).probe io.probe bind0).1.height
            ((FbOwner.init abi).probe io.probe bind0).1.bpp
            ((FbOwner.init abi).probe io.probe bind0).1.stride = (blank, 0) ∧
          shot.Pictures blank picture := by
  rcases main_cases io bind0 args with ⟨entries, session, code', e, -⟩ |
    ⟨undefined, -, -⟩ | ⟨options', probe, acquire, loop, begun, e⟩
  · rw [e]
    exact ⟨by simp [refuse], by simp [refuse]⟩
  · rw [parsed] at undefined
    cases undefined
  rw [e]
  have depth' : 24 ≤ probe.outcome.session.owner.bpp.toNat := by
    rw [begun.probe_eq]
    exact depth
  have unwrapped' : Unwrapped abi probe.outcome.session.owner.width
      probe.outcome.session.owner.height probe.outcome.session.owner.bpp
      probe.outcome.session.owner.stride := by
    rw [begun.probe_eq]
    exact unwrapped
  obtain ⟨empty, drawing⟩ := begun.blank depth' unwrapped'
  constructor
  · intro undefined
    exact runLoop_defined drawing empty io.turns (finish_undefined undefined)
  · intro shot mem
    rw [Begun.run, finish_shots] at mem
    obtain ⟨earlier, later, split⟩ := List.append_of_mem mem
    obtain ⟨turns, t, rest, before, renderer, -, led, composed⟩ := runLoop_composed split
    obtain ⟨picture, pictures⟩ := composed.pictures (led.drawing drawing) empty
    refine ⟨loop.renderer, picture, ?_, pictures⟩
    have made := begun.made
    rw [begun.probe_eq] at made
    exact made

/-- The frames before and after SPACE, and the black padding of the second one. -/
theorem second_frame_pictures : ∃ (first second : Shot .ilp32) (blank : Renderer .ilp32)
    (picture : Nat → UInt8),
    (main (padded [spacePressed 150, spacePressed 300]) (some true) []).shots =
        [first, second] ∧
      Renderer.init (some fun _ => 0) 1280 720 32 6144 = (blank, 0) ∧
      second.Pictures blank picture ∧ ∀ k : Nat, 5120 ≤ k → k < 6144 → picture k = 0 := by
  obtain ⟨first, second, shots⟩ := padded_shots
  have pictures := (dashboard_pictures (padded [spacePressed 150, spacePressed 300]) (some true)
    [] (rfl : parseArgs (.default .ilp32) [] = .options (.default .ilp32)) (by decide)
    ⟨by decide, by decide⟩).2
  rw [shots] at pictures
  obtain ⟨blank, picture, made, shown⟩ := pictures second (by simp)
  refine ⟨first, second, blank, picture, shots, made, shown, fun k low high => ?_⟩
  have same : paddedLoop.renderer = blank := congrArg Prod.fst made
  have size : blank.frameBytes.toNat = 4423680 ∧ blank.stride.toNat = 6144 ∧
      blank.width.toNat * blank.bytesPerPixel.toNat = 5120 := by
    rw [← same]
    decide
  exact shown.padding 0 k (by omega) (by omega) (by omega)

end VitaLinux.Toolkit.Dashboard
