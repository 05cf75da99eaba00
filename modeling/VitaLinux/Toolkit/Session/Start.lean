import VitaLinux.Toolkit.Session.Box

/-!
# What a start leaves behind

A start goes through stages: it gets hold of the transport, makes it writable, mounts the
image and writes the state file. Each stage says what has been added to the mount table
and what the log then holds, and `start_meets` where the script can leave them.
-/

namespace VitaLinux.Toolkit.Session

open VitaLinux.Base Prog

section reading

variable {awk : Awk} {c : Config}

theorem reads_ask {call : Call} (kind : call.reads = true) :
    (ask call).Uses (·.reads = true) := uses_ask kind

theorem reads_fail {α : Type} (report : String) :
    (fail report : Script α).Uses (·.reads = true) := uses_throw _

theorem reads_checkPaths : (checkPaths c).Uses (·.reads = true) := by
  unfold checkPaths
  apply Uses.ite
  · exact reads_fail _
  apply Uses.ite
  · exact reads_fail _
  exact uses_orFail (reads_ask rfl) _

theorem reads_discoverTransport : (discoverTransport awk c).Uses (·.reads = true) := by
  unfold discoverTransport
  apply (reads_ask rfl).bind
  intro storage
  cases storage with
  | none => exact reads_fail _
  | some storage =>
    apply Uses.ite
    · exact reads_fail _
    apply Uses.ite
    · exact reads_fail _
    split
    · exact reads_fail _
    · exact uses_pure _
    · exact reads_fail _

theorem reads_regularFiles (candidates : List Text) :
    (regularFiles candidates).Uses (·.reads = true) := by
  induction candidates with
  | nil => exact uses_pure _
  | cons candidate rest ih => exact (reads_ask rfl).bind fun _ => ih.bind fun _ => uses_pure _

theorem reads_discoverPayload (dir : Text) : (discoverPayload c dir).Uses (·.reads = true) := by
  unfold discoverPayload
  apply (reads_ask rfl).bind
  intro candidates
  apply (reads_regularFiles candidates).bind
  intro found
  split
  · exact reads_fail _
  · exact uses_pure _
  · exact reads_fail _

theorem reads_checksum (payload : Text) : (checksum awk payload).Uses (·.reads = true) := by
  unfold checksum
  apply (reads_ask rfl).bind
  intro sidecar
  apply Uses.ite
  · exact (reads_ask rfl).bind fun _ => uses_pure _
  · apply (reads_ask rfl).bind
    intro sums
    apply Uses.ite
    · exact (reads_ask rfl).bind fun _ => uses_pure _
    · exact uses_pure _

theorem reads_verify (payload : Text) : (verify awk payload).Uses (·.reads = true) := by
  unfold verify
  apply Uses.bind
  · exact (reads_checksum payload).bind fun _ => uses_pure _
  intro expected
  cases expected with
  | none => exact reads_fail _
  | some expected =>
    apply (reads_ask rfl).bind
    intro actual
    apply Uses.ite
    · exact uses_pure _
    · exact reads_fail _

theorem reads_recognized : (recognized c).Uses (·.reads = true) := by
  unfold recognized
  apply (reads_ask rfl).bind
  intro manifest
  apply Uses.ite
  · exact uses_pure _
  · exact reads_ask rfl

theorem reads_createWorkspace (transport : Text) :
    (createWorkspace c transport).Uses (·.reads = true) := by
  unfold createWorkspace
  apply Uses.ite
  · apply Uses.bind
    · apply Uses.forM
      intro sub _
      exact uses_orFail (reads_ask rfl) _
    intro _
    apply (uses_orFail (reads_ask rfl) _).bind
    intro _
    exact uses_pure _
  · exact uses_pure _

end reading

variable {awk : Awk} {canon : Text → Text} {c : Config} {w : World} {owned : Bool}
  {s t u : World × List Done}

/-- The transport's place in the mount table, when a run has mounted it. -/
def held (canon : Text → Text) (c : Config) (owned : Bool) : List (Text × Bool) :=
  if owned then [(canon c.transport, true)] else []

/-- The transport is there; this run has mounted it, or nothing has changed. -/
structure Fetched (canon : Text → Text) (c : Config) (w : World) (owned : Bool)
    (s : World × List Done) : Prop where
  session : s.1.session = w.session
  places : s.1.places = w.places ++ held canon c owned
  table : owned = false → s.1.mounts = w.mounts
  log : s.2 = if owned then [.transport] else []

/-- The transport is as the session wants it, and the image is not mounted yet. -/
structure Ready (canon : Text → Text) (c : Config) (w : World) (owned : Bool)
    (s : World × List Done) : Prop where
  session : s.1.session = w.session
  places : s.1.places = w.places ++ held canon c owned
  table : s.1.mounts = w.mounts ↔ s.2 = []
  log : ∀ d ∈ s.2, d = .transport ∨ d = .remounted
  owner : .transport ∈ s.2 ↔ owned = true

/-- The image has been mounted on top of what was there in `u`. -/
structure Imaged (canon : Text → Text) (c : Config) (u s : World × List Done) : Prop where
  mounts : ∃ m : Mount, m.target = canon c.target ∧ m.bySession = true ∧
    s.1.mounts = u.1.mounts ++ [m]
  session : s.1.session = u.1.session
  log : s.2 = u.2 ++ [.image]

/-- What a start that ends early leaves behind. -/
inductive Left (canon : Text → Text) (c : Config) (w : World) : World × List Done → Prop where
  | early {owned : Bool} {s : World × List Done} (ready : Ready canon c w owned s) : Left canon c w s
  | undone {owned : Bool} {u s : World × List Done} (ready : Ready canon c w owned u)
      (same : s.1 = u.1) (log : s.2 = u.2 ++ [.image, .unmounted]) : Left canon c w s
  | imaged {owned : Bool} {u s : World × List Done} {m : Mount} (ready : Ready canon c w owned u)
      (mounts : s.1.mounts = u.1.mounts ++ [m])
      (log : s.2 = u.2 ++ [.image] ∨ s.2 = u.2 ++ [.image, .refused]) : Left canon c w s

/-- What a start that comes to its end leaves behind. -/
structure Running (awk : Awk) (canon : Text → Text) (c : Config) (w : World) (owned : Bool)
    (fields : List (String × Text)) (s : World × List Done) : Prop where
  valid : validPath c.target = true ∧ validPath c.transport = true
  absent : ∀ p ∈ w.places, awk.is p.1 c.target = false
  places : s.1.places = w.places ++ held canon c owned ++ [(canon c.target, true)]
  session : s.1.session = some (keyFile fields)
  log : .wrote fields ∈ s.2

theorem places_append (mounts : List Mount) (m : Mount) (session : Option Text) :
    World.places ⟨mounts ++ [m], session⟩ =
      World.places ⟨mounts, session⟩ ++ [(m.target, m.bySession)] := by
  simp [World.places]

theorem places_length (s : World) : s.places.length = s.mounts.length := List.length_map _

theorem Fetched.unchanged : Fetched canon c w false (w, []) where
  session := rfl
  places := (List.append_nil _).symm
  table _ := rfl
  log := rfl

/-- A transport that this run has mounted is one mount more. -/
theorem longer (places : s.1.places = w.places ++ held canon c true) : s.1.mounts ≠ w.mounts := by
  intro same
  have counts := congrArg List.length places
  rw [places_length, same, List.length_append, places_length] at counts
  exact absurd counts (by simp [held])

theorem Fetched.ready (h : Fetched canon c w owned s) : Ready canon c w owned s := by
  refine ⟨h.session, h.places, ?_, ?_, ?_⟩
  · rw [h.log]
    cases owned with
    | true => exact ⟨fun same => absurd same (longer h.places), fun none => by cases none⟩
    | false => exact ⟨fun _ => rfl, fun _ => h.table rfl⟩
  · rw [h.log]
    cases owned with
    | true => exact fun d member => Or.inl (List.mem_singleton.mp member)
    | false => exact fun d member => absurd member List.not_mem_nil
  · rw [h.log]
    cases owned with
    | true => simp
    | false => simp

theorem Fetched.left (h : Fetched canon c w owned s) : Left canon c w s := .early h.ready

/-- Options that were read-only and are not any more are a change of the table. -/
theorem Fetched.remounted (h : Fetched canon c w owned s) {target : Text} {reply : Bool}
    (answer : Noted canon s (.remount target) reply t) : Ready canon c w owned t := by
  obtain ⟨rfl, front, back, m, options, top, changed, world, log⟩ | ⟨rfl, rfl⟩ := answer.remount
  · have places : t.1.places = w.places ++ held canon c owned := by
      rw [← h.places, world]
      simp [World.places, top.split]
    have session : t.1.session = w.session := by
      rw [world]
      exact h.session
    by_cases ro : mountIsRo m.options = true
    · rw [if_pos ro] at log changed
      rw [h.log] at log
      have different : t.1.mounts ≠ w.mounts := by
        cases owned with
        | true => exact longer places
        | false =>
          rw [← h.table rfl, world, top.split]
          intro same
          have entry : { m with options := options } = m :=
            List.head_eq_of_cons_eq (List.append_cancel_left same)
          have kept : options = m.options := congrArg Mount.options entry
          exact changed (by rw [kept, ro])
      refine ⟨session, places, ⟨fun same => absurd same different, ?_⟩, ?_, ?_⟩
      · intro none
        rw [none] at log
        cases owned <;> simp at log
      · intro d member
        rw [log] at member
        cases owned with
        | true => simpa using member
        | false => exact Or.inr (by simpa using member)
      · rw [log]
        cases owned <;> simp
    · rw [if_neg ro] at log changed
      subst changed
      rw [List.append_nil] at log
      have same : t.1.mounts = s.1.mounts := by
        rw [world, top.split]
      have ready := h.ready
      exact ⟨session, places, by rw [same, log]; exact ready.table, by rw [log]; exact ready.log,
        by rw [log]; exact ready.owner⟩
  · exact h.ready

theorem checkPaths_meets : (checkPaths c).Meets (Noted canon) (fun _ => True)
    (fun _ t => t = s ∧ validPath c.target = true ∧ validPath c.transport = true)
    (fun ending t => t = s ∧ ending.status ≠ 0) s := by
  have failed (report : String) : (⟨1, report⟩ : Ending).status ≠ 0 := Nat.one_ne_zero
  unfold checkPaths
  by_cases target : validPath c.target = true
  · by_cases transport : validPath c.transport = true
    · rw [if_neg (not_not_intro target), if_neg (not_not_intro transport)]
      apply meets_orFail
      intro reply t answer
      obtain ⟨rfl, _⟩ := answer.same rfl
      refine ⟨trivial, ?_⟩
      cases reply with
      | true => exact ⟨rfl, target, transport⟩
      | false => exact ⟨rfl, failed _⟩
    · rw [if_neg (not_not_intro target), if_pos transport]
      exact ⟨rfl, failed _⟩
  · rw [if_pos target]
    exact ⟨rfl, failed _⟩

theorem mountTransport_meets (found : Discovered) :
    (mountTransport c found).Meets (Noted canon) (fun _ => True)
      (fun r t => Fetched canon c w r.2 t ∧ (r.2 = true → r.1 = c.transport))
      (fun _ => Left canon c w) (w, []) := by
  have unchanged : Fetched canon c w false (w, []) := .unchanged
  unfold mountTransport
  split
  · apply (keeps_of_reads (uses_orFail (reads_ask rfl) _) unchanged unchanged.left).seq
    intro _ s fetched
    have mounted : (orFail (ask (.mount none (transportOptions c) found.device c.transport))
        "transport_mount_failed").Meets (Noted canon) (fun _ => True)
        (fun _ => Fetched canon c w true) (fun _ => Left canon c w) s := by
      apply meets_orFail
      intro reply t answer
      refine ⟨trivial, ?_⟩
      obtain ⟨rfl, m, place, own, world, log⟩ | ⟨rfl, rfl⟩ := answer.mount
      · refine ⟨?_, ?_, fun other => Bool.noConfusion other, ?_⟩
        · rw [world]
          exact fetched.session
        · rw [world, places_append, place, own]
          exact congrArg (· ++ [(canon c.transport, true)])
            (fetched.places.trans (List.append_nil _))
        · rw [log, fetched.log]
          rfl
      · exact fetched.left
    exact mounted.seq fun _ t fetched => ⟨fetched, fun _ => rfl⟩
  · exact ⟨unchanged, fun other => by cases other⟩

theorem locate_meets : (locate awk c).Meets (Noted canon) (fun _ => True)
    (fun found t => Fetched canon c w found.owned t ∧
      (found.owned = true → found.transport = c.transport))
    (fun _ => Left canon c w) (w, []) := by
  have unchanged : Fetched canon c w false (w, []) := .unchanged
  unfold locate
  split
  · split
    · exact unchanged.left
    · apply (keeps_of_reads (uses_orFail (reads_ask rfl) _) unchanged unchanged.left).seq
      intro _ s fetched
      exact ⟨fetched, fun other => by cases other⟩
  · apply (keeps_of_reads (I := (· = (w, []))) reads_discoverTransport rfl unchanged.left).seq
    rintro found _ rfl
    apply (mountTransport_meets found).seq
    rintro ⟨transport, owned⟩ s ⟨fetched, own⟩
    apply (keeps_of_reads (reads_discoverPayload transport) fetched fetched.left).seq
    intro payload t fetched
    exact ⟨fetched, own⟩

theorem upgradeTransport_meets (transport : Text) (h : Fetched canon c w owned s) :
    (upgradeTransport awk c transport).Meets (Noted canon) (fun _ => True)
      (fun _ => Ready canon c w owned) (fun _ => Left canon c w) s := by
  unfold upgradeTransport
  split
  · apply (keeps_of_reads (reads_ask rfl) h h.left).seq
    intro mounts t h
    split
    · apply (keeps_of_reads (reads_ask rfl) h h.left).seq
      intro mounts u h
      split
      · apply meets_orFail
        intro reply v answer
        have ready := h.remounted answer
        refine ⟨trivial, ?_⟩
        cases reply with
        | true => exact ready
        | false => exact .early ready
      · exact h.ready
    · exact h.ready
  · exact h.ready

/-- The image is mounted only where nothing is mounted yet. -/
theorem mountPayload_meets (payload : Text) (h : Ready canon c w owned s) :
    (mountPayload awk c payload).Meets (Noted canon) (fun _ => True)
      (fun _ t => Imaged canon c s t ∧ ∀ m ∈ s.1.mounts, awk.is m.target c.target = false)
      (fun _ => Left canon c w) s := by
  unfold mountPayload
  apply (meets_ask_reads rfl).seq
  rintro _ _ ⟨rfl, rfl⟩
  split
  · exact .early h
  · rename_i s free
    have absent : ∀ m ∈ s.1.mounts, awk.is m.target c.target = false := by
      intro m member
      apply Bool.eq_false_iff.mpr
      exact fun taken => free (List.any_eq_true.mpr ⟨m, member, taken⟩)
    apply (keeps_of_reads (I := (· = s)) (uses_orFail (reads_ask rfl) _) rfl (.early h)).seq
    rintro _ _ rfl
    apply meets_orFail
    intro reply u answer
    refine ⟨trivial, ?_⟩
    obtain ⟨rfl, m, place, own, world, log⟩ | ⟨rfl, rfl⟩ := answer.mount
    · refine ⟨⟨⟨m, place, own, ?_⟩, ?_, log⟩, absent⟩
      · rw [world]
      · rw [world]
    · exact .early h

theorem Imaged.left (ready : Ready canon c w owned u) (h : Imaged canon c u s) :
    Left canon c w s := by
  obtain ⟨m, _, _, mounts⟩ := h.mounts
  exact .imaged ready mounts (Or.inl h.log)

/-- The last entry of the table is the last one in its place. -/
theorem Topmost.append {mounts front back : List Mount} {m last : Mount} {place : Text}
    (top : Topmost (mounts ++ [last]) place front m back) (here : last.target = place) :
    front ++ back = mounts := by
  obtain rfl | ⟨others, b, rfl⟩ := List.eq_nil_or_concat back
  · have same := List.append_inj_left' top.split rfl
    rw [List.append_nil, same]
  · have split := top.split
    rw [List.concat_eq_append, ← List.cons_append, ← List.append_assoc] at split
    have same : [last] = [b] := List.append_inj_right' split rfl
    have later : b.target ≠ place := top.last b (by simp)
    rw [List.singleton_inj.mp same] at here
    exact absurd here later

theorem checkMarkers_meets (ready : Ready canon c w owned u) (h : Imaged canon c u s) :
    (checkMarkers c).Meets (Noted canon) (fun _ => True) (fun _ => Imaged canon c u)
      (fun _ => Left canon c w) s := by
  unfold checkMarkers
  apply (keeps_of_reads reads_recognized h (h.left ready)).seq
  intro recognized s h
  split
  · exact h
  · intro reply t answer
    refine ⟨trivial, ?_⟩
    obtain ⟨m, place, own, mounts⟩ := h.mounts
    obtain ⟨rfl, front, back, top, split, rfl⟩ | ⟨rfl, rfl⟩ := answer.umount
    · rw [mounts] at split
      refine .undone ready ?_ ?_
      · exact congrArg₂ World.mk (split.append place) h.session
      · rw [h.log, List.append_assoc]
        rfl
    · refine .imaged ready mounts (Or.inr ?_)
      rw [h.log, List.append_assoc]
      rfl

theorem writeState_meets (fields : List (String × Text)) (ready : Ready canon c w owned u)
    (valid : validPath c.target = true ∧ validPath c.transport = true)
    (absent : ∀ m ∈ u.1.mounts, awk.is m.target c.target = false) (h : Imaged canon c u s) :
    (writeState c fields).Meets (Noted canon) (fun _ => True)
      (fun _ => Running awk canon c w owned fields) (fun _ => Left canon c w) s := by
  unfold writeState
  apply (keeps_of_reads (uses_orFail (reads_ask rfl) _) h (h.left ready)).seq
  intro _ s h
  apply meets_orFail
  intro reply t answer
  refine ⟨trivial, ?_⟩
  obtain ⟨m, place, own, mounts⟩ := h.mounts
  obtain ⟨same, ⟨rfl, session, log⟩ | ⟨rfl, log⟩⟩ := answer.writeSession
  · refine ⟨valid, ?_, ?_, session, ?_⟩
    · intro p member
      have here : p ∈ u.1.places := by
        rw [ready.places]
        exact List.mem_append_left _ member
      obtain ⟨n, known, rfl⟩ := List.mem_map.mp here
      exact absent n known
    · rw [← ready.places, World.places, same, mounts]
      simp [World.places, place, own]
    · rw [log]
      simp
  · refine .imaged ready (same.trans mounts) (Or.inl ?_)
    rw [log, h.log]

/-- A start comes to its end, or leaves what it has done so far. -/
theorem start_meets : (start awk c).Meets (Noted canon) (fun _ => True)
    (fun _ t => ∃ found digest mode workspace,
      (found.owned = true → found.transport = c.transport) ∧
        Running awk canon c w found.owned (sessionFields c found digest mode workspace) t)
    (fun _ => Left canon c w) (w, []) := by
  have unchanged : Fetched canon c w false (w, []) := .unchanged
  unfold start
  apply checkPaths_meets.seq_of (fun _ event => event) fun _ _ same => same.1 ▸ unchanged.left
  rintro _ _ ⟨rfl, valid⟩
  apply locate_meets.seq
  rintro found s ⟨fetched, own⟩
  apply (upgradeTransport_meets found.transport fetched).seq
  intro _ u ready
  apply (keeps_of_reads (I := (· = u)) (reads_verify found.payload) rfl (.early ready)).seq
  rintro digest _ rfl
  apply (mountPayload_meets found.payload ready).seq
  rintro _ s ⟨imaged, absent⟩
  apply (checkMarkers_meets ready imaged).seq
  intro _ s imaged
  apply (keeps_of_reads (reads_createWorkspace found.transport) imaged (imaged.left ready)).seq
  rintro ⟨mode, workspace⟩ s imaged
  exact (writeState_meets _ ready valid absent imaged).imp
    (fun _ _ running => ⟨found, digest, mode, workspace, own, running⟩) fun _ _ left => left

end VitaLinux.Toolkit.Session
