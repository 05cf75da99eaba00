import VitaLinux.Cart.FlashCheck.Checker

/-!
# The video mode of the flash checker

A run in the video mode comes to one of four ends, by how much ffmpeg writes on stderr, how many
complete frames it gives, and whether the grid fits them (`decodeVideo_cases`). From these
follow the runs that end with 3 and those that pass.
-/

namespace VitaLinux.Cart.FlashCheck

open VitaLinux.Base

theorem values16_length (bytes : List UInt8) : (values16 bytes).length = bytes.length / 2 := by
  induction bytes using values16.induct with
  | case1 low high rest ih =>
    rw [values16, List.length_cons, ih, List.length_cons, List.length_cons]
    omega
  | case2 bytes short =>
    cases bytes with
    | nil => rfl
    | cons low rest =>
      cases rest with
      | nil => simp [values16]
      | cons high rest => exact absurd rfl (short low high rest)

/-- A loop over the frames goes through, or stops as the first frame that stops it does. -/
theorem mapM_except {α β ε : Type} (f : α → Except ε β) (l : List α) :
    (∃ bs, l.mapM f = .ok bs ∧ List.Forall₂ (fun a b => f a = .ok b) l bs) ∨
      ∃ a ∈ l, ∃ e, f a = .error e ∧ l.mapM f = .error e := by
  induction l with
  | nil => exact Or.inl ⟨[], rfl, .nil⟩
  | cons a l ih =>
    rw [List.mapM_cons]
    cases first : f a with
    | error e => exact Or.inr ⟨a, List.mem_cons_self, e, first, rfl⟩
    | ok b =>
      obtain ⟨bs, rest, all⟩ | ⟨c, member, e, stops, rest⟩ := ih
      · rw [rest]
        exact Or.inl ⟨b :: bs, rfl, .cons first all⟩
      · rw [rest]
        exact Or.inr ⟨c, List.mem_cons_of_mem _ member, e, stops, rfl⟩

/-- What fits in the pipe of stderr holds nothing back. -/
theorem delivered_of_fits (f : Ffmpeg) (fits : ¬ f.waits) :
    delivered PIPE_CAPACITY f.writes = f.stdout := by
  unfold Ffmpeg.waits Ffmpeg.stderr at fits
  unfold Ffmpeg.stdout
  generalize PIPE_CAPACITY = room at fits ⊢
  generalize f.writes = writes at fits ⊢
  induction writes generalizing room with
  | nil => rfl
  | cons write writes ih =>
    rw [List.flatMap_cons, List.length_append] at fits
    rw [List.flatMap_cons]
    cases write with
    | stdout bytes =>
      rw [delivered, ih room (by simpa using fits)]
    | stderr bytes =>
      dsimp only at fits
      rw [delivered, if_pos (by omega), ih (room - bytes.length) (by omega), List.nil_append]

section video

variable {F : Type}

/-- The bytes of a last frame that is not complete. -/
def trailing (o : Options F) (f : Ffmpeg) : List UInt8 := leftover o.frameBytes f.stdout

/-- The number of complete frames. -/
def completeFrames (o : Options F) (f : Ffmpeg) : Nat := f.stdout.length / o.frameBytes

/-- The complete frames, as the checker has them. -/
def Options.frames (o : Options F) (bytes : List UInt8) : List (List Nat) :=
  (readFrames o.frameBytes bytes).map values16

/-- The loop never ends, as ffmpeg waits for its stderr to be read. -/
def Hangs (o : Options F) (f : Ffmpeg) : Prop := f.waits ∧ o.frameBytes ≠ 0

/-- The grid is not more than one pixel longer than the frame. -/
def Options.Fits (o : Options F) : Prop := o.grid ≤ o.cols + 1 ∧ o.grid ≤ o.rows + 1

/-- ffmpeg is run. -/
def Capture.Decodes (c : Capture F) : Prop :=
  c.tools = true ∧ c.found = true ∧ ∃ fps, c.probe = .ok fps

/-- ffmpeg gives too few frames, and the grid raises nothing. -/
def TooFew (o : Options F) (f : Ffmpeg) : Prop :=
  ¬ Hangs o f ∧ (completeFrames o f = 0 ∨ completeFrames o f = 1 ∧ o.Fits)

/-- Unless it hangs, the loop reads all that ffmpeg writes. -/
theorem readFrames_delivered {o : Options F} {f : Ffmpeg} (ends : ¬ Hangs o f) :
    readFrames o.frameBytes (delivered PIPE_CAPACITY f.writes) =
      readFrames o.frameBytes f.stdout := by
  by_cases some : o.frameBytes = 0
  · rw [some]
    simp only [readFrames_eq, records, Nat.div_zero, List.range_zero, List.map_nil]
  · rw [delivered_of_fits f fun waits => ends ⟨waits, some⟩]

theorem frames_delivered {o : Options F} {f : Ffmpeg} (ends : ¬ Hangs o f) :
    o.frames (delivered PIPE_CAPACITY f.writes) = o.frames f.stdout :=
  congrArg (List.map values16) (readFrames_delivered ends)

theorem frames_length (o : Options F) (f : Ffmpeg) :
    (o.frames f.stdout).length = completeFrames o f := by
  rw [Options.frames, List.length_map, readFrames_eq, records_length]
  rfl

/-- A complete frame has the size of the options. -/
theorem mem_frames {o : Options F} {bytes : List UInt8} {frame : List Nat}
    (member : frame ∈ o.frames bytes) :
    0 < o.cols ∧ 0 < o.rows ∧ frame.length = o.cols * o.rows * 3 := by
  rw [Options.frames, readFrames_eq] at member
  obtain ⟨bytes, read, rfl⟩ := List.mem_map.mp member
  obtain ⟨positive, sized⟩ := mem_records read
  unfold Options.frameBytes at positive sized
  rw [values16_length, sized, Nat.mul_div_cancel _ Nat.two_pos]
  have area : 0 < o.cols * o.rows := by omega
  exact ⟨Nat.pos_of_mul_pos_right area, Nat.pos_of_mul_pos_left area, rfl⟩

variable [Zero F] [Add F] [Mul F] [Div F] [NatCast F] [OfScientific F]

theorem cells_ok_iff {o : Options F} {frame : List Nat} (wide : 0 < o.cols) (high : 0 < o.rows)
    (whole : frame.length = o.cols * o.rows * 3) :
    (∃ cells : List F, o.cells frame = .ok cells) ↔ o.Fits := by
  unfold Options.cells Options.Fits
  split
  · next some =>
    have fits := luminanceCells_isSome (F := F) wide high (by omega : 0 < o.grid.toNat) whole
    have sizes : o.grid ≤ o.cols + 1 ∧ o.grid ≤ o.rows + 1 ↔
        o.grid.toNat ≤ o.cols + 1 ∧ o.grid.toNat ≤ o.rows + 1 := by omega
    rw [sizes, ← fits]
    cases (luminanceCells frame o.cols o.rows o.grid.toNat : Option (List F)) with
    | none =>
      constructor
      · rintro ⟨_, no⟩
        cases no
      · intro no
        cases no
    | some cells => exact ⟨fun _ => rfl, fun _ => ⟨cells, rfl⟩⟩
  · next none =>
    constructor
    · intro _
      omega
    · exact fun _ => ⟨[], rfl⟩

theorem cells_raised {o : Options F} {frame : List Nat} {e : Stop}
    (stops : (o.cells frame : Except Stop (List F)) = .error e) : e = .raised := by
  unfold Options.cells at stops
  split at stops
  · split at stops
    · cases stops
    · cases stops
      rfl
  · cases stops

/-- Each frame of some has its cells, or one of them raises. -/
theorem cells_cases (o : Options F) (bytes : List UInt8) :
    (o.frames bytes = [] ∨ o.Fits) ∧ (∃ series : List (List F),
        (o.frames bytes).mapM o.cells = .ok series ∧
        List.Forall₂ (fun frame cells => o.cells frame = .ok cells) (o.frames bytes) series) ∨
      (o.frames bytes ≠ [] ∧ ¬ o.Fits) ∧
        ((o.frames bytes).mapM o.cells : Except Stop (List (List F))) = .error .raised := by
  obtain ⟨series, ran, all⟩ | ⟨frame, member, stop, stops, ran⟩ :=
    mapM_except (o.cells (F := F)) (o.frames bytes)
  · refine .inl ⟨?_, series, ran, all⟩
    cases given : o.frames bytes with
    | nil => exact .inl rfl
    | cons frame frames =>
      obtain ⟨wide, high, whole⟩ := mem_frames (given ▸ List.mem_cons_self)
      rw [given] at all
      cases all with
      | @cons _ cells _ _ ok _ => exact .inr ((cells_ok_iff wide high whole).mp ⟨cells, ok⟩)
  · obtain ⟨wide, high, whole⟩ := mem_frames member
    obtain rfl := cells_raised stops
    refine .inr ⟨⟨List.ne_nil_of_mem member, fun fits => ?_⟩, ran⟩
    obtain ⟨cells, ok⟩ := (cells_ok_iff (F := F) wide high whole).mpr fits
    rw [ok] at stops
    cases stops

/-- The luminance of a cell in frame after frame. -/
def cellSeries (o : Options F) (frames : List (List Nat)) (cell : Nat) : List F :=
  frames.filterMap fun frame =>
    (luminanceCells frame o.cols o.rows o.grid.toNat).bind fun cells => cells[cell]?

theorem cells_length (grid : Nat) : (cells grid).length = grid * grid := by
  unfold cells
  simp [List.length_flatMap]

theorem mapM_option_length {α β : Type} {f : α → Option β} {l : List α} {bs : List β}
    (mapped : l.mapM f = some bs) : bs.length = l.length := by
  induction l generalizing bs with
  | nil =>
    cases mapped
    rfl
  | cons a l ih =>
    rw [List.mapM_cons] at mapped
    obtain ⟨b, _, rest⟩ := Option.bind_eq_some_iff.mp mapped
    obtain ⟨others, ran, same⟩ := Option.bind_eq_some_iff.mp rest
    cases same
    rw [List.length_cons, List.length_cons, ih ran]

theorem cells_eq {o : Options F} {frame : List Nat} {values : List F} (some : 0 < o.grid)
    (ok : o.cells frame = .ok values) :
    luminanceCells frame o.cols o.rows o.grid.toNat = Option.some values ∧
      values.length = o.grid.toNat * o.grid.toNat := by
  unfold Options.cells at ok
  rw [if_pos some] at ok
  split at ok
  · next cells ran =>
    cases ok
    refine ⟨ran, ?_⟩
    rw [mapM_option_length ran, cells_length]
  · cases ok

/-- The series that the video mode analyses for a cell. -/
theorem cellSeries_eq {o : Options F} {frames : List (List Nat)} {series : List (List F)}
    (some : 0 < o.grid) (all : List.Forall₂ (fun frame cells => o.cells frame = .ok cells)
      frames series) (cell : Nat) :
    series.filterMap (fun cells => cells[cell]?) = cellSeries o frames cell := by
  unfold cellSeries
  induction all with
  | nil => rfl
  | @cons frame values frames series ok _ ih =>
    rw [List.filterMap_cons, List.filterMap_cons, (cells_eq some ok).1, ih]
    rfl

variable [Sub F] [Neg F] [LT F] [LE F] [DecidableLT F] [DecidableLE F] [Rounds F]

/-- No cell of the grid has a flash pair. -/
def LocallyClean (o : Options F) (frames : List (List Nat)) : Prop :=
  ∀ cell < o.grid.toNat * o.grid.toNat, Clean (cellSeries o frames cell)

/-- Neither the picture nor a cell of the grid has a flash pair. -/
def NoFlash (o : Options F) (frames : List (List Nat)) : Prop :=
  Clean (frames.map luminanceGlobal : List F) ∧ LocallyClean o frames

/-- The verdict passes the frames in which nothing flashes. -/
theorem verdict_noFlash {o : Options F} {fps : F} {frames : List (List Nat)}
    {series : List (List F)} (some : frames ≠ [])
    (all : List.Forall₂ (fun frame cells => o.cells frame = .ok cells) frames series) :
    verdict (worst (analyse (frames.map luminanceGlobal) fps "global")
      (cellRegions series o.grid.toNat fps)) = 0 ↔ NoFlash o frames := by
  rw [verdict_eq_zero_iff, List.forall_mem_cons, analyse_clean_iff]
  unfold NoFlash LocallyClean cellRegions
  apply and_congr_right
  intro _
  simp only [List.forall_mem_map, List.mem_range, analyse_clean_iff]
  by_cases grid : 0 < o.grid
  · have counted : (series.headD []).length = o.grid.toNat * o.grid.toNat := by
      cases all with
      | nil => exact absurd rfl some
      | cons ok _ => exact (cells_eq grid ok).2
    rw [counted]
    simp only [cellSeries_eq grid all]
  · have none : o.grid.toNat = 0 := by omega
    have empty : (series.headD []).length = 0 := by
      cases all with
      | nil => rfl
      | cons ok _ =>
        unfold Options.cells at ok
        rw [if_neg grid] at ok
        cases ok
        rfl
    rw [empty, none, Nat.zero_mul]
    exact iff_of_true (fun _ => (Nat.not_lt_zero _).elim) fun _ => (Nat.not_lt_zero _).elim

theorem decodeVideo_error {o : Options F} (fps : F) {f : Ffmpeg} {stop : Stop}
    (ran : (o.frames (delivered PIPE_CAPACITY f.writes)).mapM o.cells = .error stop) :
    decodeVideo o fps f = some (throw stop) := by
  unfold Options.frames at ran
  simp only [decodeVideo, ran]

theorem decodeVideo_ok {o : Options F} (fps : F) {f : Ffmpeg} {series : List (List F)}
    (ran : (o.frames (delivered PIPE_CAPACITY f.writes)).mapM o.cells = .ok series) :
    decodeVideo o fps f =
      if f.waits ∧ o.frameBytes ≠ 0 then none
      else if (o.frames (delivered PIPE_CAPACITY f.writes)).length < 2 then some (throw .died)
      else some (return verdict (worst
        (analyse ((o.frames (delivered PIPE_CAPACITY f.writes)).map luminanceGlobal) fps "global")
        (cellRegions series o.grid.toNat fps))) := by
  unfold Options.frames at ran ⊢
  simp only [decodeVideo, ran, List.length_map]

/-- The loop hangs or raises; the grid does not fit; there are too few frames; or there is a
verdict on what ffmpeg gave. -/
theorem decodeVideo_cases (o : Options F) (fps : F) (f : Ffmpeg) :
    (Hangs o f ∧ (exitStatus (decodeVideo o fps f) = none ∨
        exitStatus (decodeVideo o fps f) = some 1)) ∨
      (¬ Hangs o f ∧ completeFrames o f ≠ 0 ∧ ¬ o.Fits ∧
        exitStatus (decodeVideo o fps f) = some 1) ∨
      (TooFew o f ∧ exitStatus (decodeVideo o fps f) = some 3) ∨
      (¬ Hangs o f ∧ 2 ≤ completeFrames o f ∧ o.Fits ∧ ∃ r : Region F,
        exitStatus (decodeVideo o fps f) = some (verdict r) ∧
        (verdict r = 0 ↔ NoFlash o (o.frames f.stdout))) := by
  by_cases hangs : Hangs o f
  · left
    refine ⟨hangs, ?_⟩
    obtain ⟨-, series, ran, -⟩ | ⟨-, ran⟩ :=
      cells_cases (F := F) o (delivered PIPE_CAPACITY f.writes)
    · exact .inl (congrArg exitStatus ((decodeVideo_ok fps ran).trans (if_pos hangs)))
    · rw [decodeVideo_error fps ran]
      exact .inr rfl
  right
  have told := frames_delivered hangs
  have count := frames_length o f
  obtain ⟨fits, series, ran, all⟩ | ⟨⟨some, large⟩, ran⟩ := cells_cases (F := F) o f.stdout
  · right
    rw [← told] at ran
    rw [decodeVideo_ok fps ran, if_neg (show ¬(f.waits ∧ o.frameBytes ≠ 0) from hangs), told,
      count]
    by_cases few : completeFrames o f < 2
    · left
      rw [if_pos few]
      refine ⟨⟨hangs, ?_⟩, rfl⟩
      obtain none | fits := fits
      · exact .inl (count.symm.trans (congrArg List.length none))
      · by_cases zero : completeFrames o f = 0
        · exact .inl zero
        · exact .inr ⟨by omega, fits⟩
    · right
      rw [if_neg few]
      have some : o.frames f.stdout ≠ [] := by
        rw [← List.length_pos_iff, count]
        omega
      exact ⟨hangs, Nat.not_lt.mp few, fits.resolve_left some, _, rfl, verdict_noFlash some all⟩
  · left
    rw [← told] at ran
    rw [decodeVideo_error fps ran]
    refine ⟨hangs, ?_, large, rfl⟩
    rw [← count]
    exact (List.length_pos_iff.mpr some).ne'

variable [BEq F]

theorem videoRun_eq (o : Options F) {c : Capture F} (decodes : c.Decodes) :
    ∃ fps, videoRun o c = decodeVideo o fps c.ffmpeg := by
  obtain ⟨tools, found, probed, ok⟩ := decodes
  exact ⟨o.fpsOr probed, by simp [videoRun, tools, found, ok]⟩

/-- Without ffmpeg nothing passes. -/
theorem decodes_of_passes (o : Options F) {c : Capture F}
    (passed : exitStatus (videoRun o c) = some 0) : c.Decodes := by
  unfold videoRun at passed
  split at passed
  · cases passed
  · next tools =>
    split at passed
    · cases passed
    · next found =>
      cases probed : c.probe with
      | error stop =>
        rw [probed] at passed
        cases stop <;> cases passed
      | ok fps =>
        exact ⟨Bool.eq_true_of_not_eq_false tools, Bool.eq_true_of_not_eq_false found, fps, probed⟩

/-- The runs that pass. -/
theorem videoRun_passes (o : Options F) (c : Capture F) :
    exitStatus (videoRun o c) = some 0 ↔ c.Decodes ∧ ¬ Hangs o c.ffmpeg ∧
      2 ≤ completeFrames o c.ffmpeg ∧ o.Fits ∧ NoFlash o (o.frames c.ffmpeg.stdout) := by
  by_cases decodes : c.Decodes
  case neg =>
    exact iff_of_false (fun passed => decodes (decodes_of_passes o passed)) fun h => decodes h.1
  obtain ⟨fps, run⟩ := videoRun_eq o decodes
  rw [run]
  obtain ⟨hangs, none | one⟩ | ⟨-, some, large, one⟩ | ⟨few, three⟩ |
      ⟨ends, many, fits, r, ended, clean⟩ := decodeVideo_cases o fps c.ffmpeg
  · rw [none]
    exact iff_of_false nofun fun h => h.2.1 hangs
  · rw [one]
    exact iff_of_false (by decide) fun h => h.2.1 hangs
  · rw [one]
    exact iff_of_false (by decide) fun h => large h.2.2.2.1
  · rw [three]
    refine iff_of_false (by decide) fun h => ?_
    have := few.2
    have := h.2.2.1
    omega
  · rw [ended, Option.some_inj, clean]
    exact ⟨fun clean => ⟨decodes, ends, many, fits, clean⟩, fun h => h.2.2.2.2⟩

end video

end VitaLinux.Cart.FlashCheck
