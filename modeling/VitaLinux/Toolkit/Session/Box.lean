import VitaLinux.Toolkit.Session.Script

/-!
# The system that the session script runs on

A mount is added at the end of the mount table, and `umount` and `remount` act on the last
mount in a place. A command that fails changes nothing; writing the state file may also
fail halfway. Everything else that the script asks can be answered in any way.
-/

namespace VitaLinux.Toolkit.Session

open VitaLinux.Base Prog

structure World where
  mounts : List Mount
  /-- the state file -/
  session : Option Text
  deriving DecidableEq

/-- Where something is mounted, and whether by the session. -/
def World.places (s : World) : List (Text × Bool) := s.mounts.map fun m => (m.target, m.bySession)

/-- What the script can see of the world is what is there. -/
def World.Shows (s : World) : (call : Call) → Reply call → Prop
  | .procMounts, mounts => mounts = s.mounts
  | .readSession, session => session = s.session
  | _, _ => True

/-- The last mount in a place. -/
structure Topmost (mounts : List Mount) (place : Text) (front : List Mount) (m : Mount)
    (back : List Mount) : Prop where
  split : mounts = front ++ m :: back
  here : m.target = place
  last : ∀ b ∈ back, b.target ≠ place

/-- `canon` is the name that the mount table has for a path. -/
inductive Box (canon : Text → Text) : World → (call : Call) → Reply call → World → Prop where
  | reads {s : World} {call : Call} {reply : Reply call} (kind : call.reads = true)
      (shows : s.Shows call reply) : Box canon s call reply s
  | mounts {s : World} {fstype : Option String} {options : String} {source target : Text}
      (m : Mount) (place : m.target = canon target) (own : m.bySession = true) :
      Box canon s (.mount fstype options source target) true { s with mounts := s.mounts ++ [m] }
  | mountFails {s : World} {fstype : Option String} {options : String} {source target : Text} :
      Box canon s (.mount fstype options source target) false s
  | remounts {s : World} {target : Text} {front back : List Mount} {m : Mount} (options : Text)
      (top : Topmost s.mounts (canon target) front m back)
      (changed : if mountIsRo m.options then ¬ mountIsRo options else options = m.options) :
      Box canon s (.remount target) true
        { s with mounts := front ++ { m with options := options } :: back }
  | remountFails {s : World} {target : Text} : Box canon s (.remount target) false s
  | umounts {s : World} {target : Text} {front back : List Mount} {m : Mount}
      (top : Topmost s.mounts (canon target) front m back) :
      Box canon s (.umount target) true { s with mounts := front ++ back }
  | umountFails {s : World} {target : Text} : Box canon s (.umount target) false s
  | writes {s : World} {fields : List (String × Text)} :
      Box canon s (.writeSession fields) true { s with session := some (keyFile fields) }
  | writeFails {s : World} {fields : List (String × Text)} (session : Option Text) :
      Box canon s (.writeSession fields) false { s with session := session }
  | removes {s : World} : Box canon s .removeSession true { s with session := none }
  | removeFails {s : World} : Box canon s .removeSession false s

/-- What a run has done to the system, or has not been allowed to. -/
inductive Done where
  /-- the transport has been mounted -/
  | transport
  /-- a transport that was mounted read-only has been made writable -/
  | remounted
  /-- the image has been mounted -/
  | image
  | unmounted
  /-- an `umount` has failed -/
  | refused
  | wrote (fields : List (String × Text))
  deriving DecidableEq

/-- The last mount in a place, if there is one. -/
def topmost (mounts : List Mount) (place : Text) : Option Mount :=
  mounts.reverse.find? fun m => m.target = place

/-- What a call with this reply has done. -/
def done (canon : Text → Text) (s : World) : (call : Call) → Reply call → List Done
  | .mount fstype _ _ _, true => [if fstype = none then .transport else .image]
  | .remount target, true =>
    if (topmost s.mounts (canon target)).any (mountIsRo ·.options) then [.remounted] else []
  | .umount _, true => [.unmounted]
  | .umount _, false => [.refused]
  | .writeSession fields, true => [.wrote fields]
  | _, _ => []

def note (canon : Text → Text) (e : Event World Call Reply) : List Done :=
  done canon e.before e.call e.reply

def log (canon : Text → Text) (events : List (Event World Call Reply)) : List Done :=
  events.flatMap (note canon)

/-- The system, and what has been done to it. -/
abbrev Noted (canon : Text → Text) : Environment (World × List Done) Call Reply :=
  noted (note canon) (Box canon)

variable {canon : Text → Text}

theorem Topmost.found {mounts front back : List Mount} {place : Text} {m : Mount}
    (top : Topmost mounts place front m back) : topmost mounts place = some m := by
  have later : (back.reverse.find? fun b => b.target = place) = none := by
    rw [List.find?_eq_none]
    intro b member equal
    exact top.last b (List.mem_reverse.mp member) (of_decide_eq_true equal)
  rw [topmost, top.split, List.reverse_append, List.reverse_cons, List.append_assoc,
    List.find?_append, later, Option.none_or, List.singleton_append]
  exact List.find?_cons_of_pos (decide_eq_true top.here)

/-- A call that reads changes nothing. -/
theorem Box.same {s t : World} {call : Call} {reply : Reply call} (kind : call.reads = true)
    (answer : Box canon s call reply t) : t = s ∧ s.Shows call reply := by
  cases answer with
  | reads _ shows => exact ⟨rfl, shows⟩
  | _ => cases kind

theorem Noted.same {s t : World × List Done} {call : Call} {reply : Reply call}
    (kind : call.reads = true) (answer : Noted canon s call reply t) :
    t = s ∧ s.1.Shows call reply := by
  obtain ⟨s, past⟩ := s
  obtain ⟨t, now⟩ := t
  obtain ⟨answer, logged⟩ := answer
  obtain ⟨rfl, shows⟩ := Box.same kind answer
  have nothing : note canon ⟨t, call, reply, t⟩ = [] := by
    cases call with
    | mount | remount | umount | writeSession | removeSession => cases kind
    | _ => rfl
  change now = past ++ note canon ⟨t, call, reply, t⟩ at logged
  rw [nothing, List.append_nil] at logged
  exact ⟨by rw [logged], shows⟩

section answers

variable {s t : World × List Done} {target : Text} {reply : Bool}

theorem Noted.mount {fstype : Option String} {options : String} {source : Text}
    (answer : Noted canon s (.mount fstype options source target) reply t) :
    (reply = true ∧ ∃ m : Mount, m.target = canon target ∧ m.bySession = true ∧
        t.1 = { s.1 with mounts := s.1.mounts ++ [m] } ∧
        t.2 = s.2 ++ [if fstype = none then .transport else .image]) ∨
      reply = false ∧ t = s := by
  obtain ⟨s, past⟩ := s
  obtain ⟨t, now⟩ := t
  obtain ⟨answer, logged⟩ := answer
  change Box canon s (.mount fstype options source target) reply t at answer
  cases answer with
  | reads kind shows => cases kind
  | mounts m place own =>
    left
    exact ⟨rfl, m, place, own, rfl, logged⟩
  | mountFails =>
    right
    refine ⟨rfl, ?_⟩
    change now = past ++ [] at logged
    rw [logged, List.append_nil]

/-- A remount writes options into the last entry, or fails. -/
theorem Noted.remount (answer : Noted canon s (.remount target) reply t) :
    (reply = true ∧ ∃ (front back : List Mount) (m : Mount) (options : Text),
        Topmost s.1.mounts (canon target) front m back ∧
        (if mountIsRo m.options then ¬ mountIsRo options else options = m.options) ∧
        t.1 = { s.1 with mounts := front ++ { m with options := options } :: back } ∧
        t.2 = s.2 ++ if mountIsRo m.options then [.remounted] else []) ∨
      reply = false ∧ t = s := by
  obtain ⟨s, past⟩ := s
  obtain ⟨t, now⟩ := t
  obtain ⟨answer, logged⟩ := answer
  change Box canon s (.remount target) reply t at answer
  cases answer with
  | reads kind shows => cases kind
  | @remounts _ front back m options top changed =>
    left
    refine ⟨rfl, front, back, m, options, top, changed, rfl, ?_⟩
    change now = past ++ if (topmost s.mounts (canon target)).any (mountIsRo ·.options)
      then [.remounted] else [] at logged
    rw [top.found] at logged
    exact logged
  | remountFails =>
    right
    refine ⟨rfl, ?_⟩
    change now = past ++ [] at logged
    rw [logged, List.append_nil]

theorem Noted.umount (answer : Noted canon s (.umount target) reply t) :
    (reply = true ∧ ∃ (front back : List Mount) (m : Mount),
        Topmost s.1.mounts (canon target) front m back ∧
        t = ({ s.1 with mounts := front ++ back }, s.2 ++ [.unmounted])) ∨
      reply = false ∧ t = (s.1, s.2 ++ [.refused]) := by
  obtain ⟨s, past⟩ := s
  obtain ⟨t, now⟩ := t
  obtain ⟨answer, logged⟩ := answer
  change Box canon s (.umount target) reply t at answer
  cases answer with
  | reads kind shows => cases kind
  | @umounts _ front back m top =>
    left
    exact ⟨rfl, front, back, m, top, Prod.ext rfl logged⟩
  | umountFails =>
    right
    exact ⟨rfl, Prod.ext rfl logged⟩

/-- Writing the state file leaves the mount table alone. -/
theorem Noted.writeSession {fields : List (String × Text)}
    (answer : Noted canon s (.writeSession fields) reply t) :
    t.1.mounts = s.1.mounts ∧
      (reply = true ∧ t.1.session = some (keyFile fields) ∧ t.2 = s.2 ++ [.wrote fields] ∨
        reply = false ∧ t.2 = s.2) := by
  obtain ⟨s, past⟩ := s
  obtain ⟨t, now⟩ := t
  obtain ⟨answer, logged⟩ := answer
  change Box canon s (.writeSession fields) reply t at answer
  cases answer with
  | reads kind shows => cases kind
  | writes => exact ⟨rfl, Or.inl ⟨rfl, rfl, logged⟩⟩
  | writeFails session => exact ⟨rfl, Or.inr ⟨rfl, logged.trans (List.append_nil past)⟩⟩

theorem Noted.removeSession (answer : Noted canon s .removeSession reply t) :
    t.1.mounts = s.1.mounts ∧ t.2 = s.2 ∧ (reply = false → t = s) := by
  obtain ⟨s, past⟩ := s
  obtain ⟨t, now⟩ := t
  obtain ⟨answer, logged⟩ := answer
  change Box canon s .removeSession reply t at answer
  change now = past ++ [] at logged
  rw [List.append_nil] at logged
  cases answer with
  | reads kind shows => cases kind
  | removes =>
    refine ⟨rfl, logged, fun failed => ?_⟩
    cases failed
  | removeFails => exact ⟨rfl, logged, fun _ => Prod.ext rfl logged⟩

end answers

/-- A command that fails ends the script. -/
theorem meets_orFail {S : Type} {env : Environment S Call Reply} {E : Event S Call Reply → Prop}
    {X : Ending → S → Prop} {s : S} {command : Script Bool} {report : String}
    {Q : Unit → S → Prop}
    (h : command.Meets env E (fun ok t => if ok then Q () t else X ⟨1, report⟩ t) X s) :
    (orFail command report).Meets env E Q X s := by
  unfold orFail
  apply h.seq
  intro ok t next
  cases ok with
  | true => exact next
  | false => exact next

section rules

variable {α : Type} {E : Event (World × List Done) Call Reply → Prop}
  {X : Ending → World × List Done → Prop} {s : World × List Done}

/-- A program that only reads finds the system as it was, and leaves it so. -/
theorem meets_of_reads {p : Script α} (uses : p.Uses (·.reads = true)) (s : World × List Done) :
    p.Meets (Noted canon) (fun _ => True) (fun _ t => t = s) (fun _ t => t = s) s := by
  have step : ∀ u (call : Call) (reply : Reply call) t, call.reads = true → u = s →
      Noted canon u call reply t → t = s := by
    intro u call reply t kind same answer
    exact (Noted.same kind answer).1.trans same
  exact (uses.meets step rfl).mono (fun _ _ => trivial) (fun _ _ same => same) fun _ _ same => same

/-- What holds of the system before a program that only reads holds after it. -/
theorem keeps_of_reads {p : Script α} (uses : p.Uses (·.reads = true))
    {I J : World × List Done → Prop} (returns : I s) (raises : J s) :
    p.Meets (Noted canon) (fun _ => True) (fun _ => I) (fun _ => J) s :=
  (meets_of_reads uses s).imp (fun _ _ same => same ▸ returns)
    fun _ _ same => same ▸ raises

theorem meets_ask_reads {call : Call} (kind : call.reads = true) :
    (ask call).Meets (Noted canon) (fun _ => True)
      (fun reply t => t = s ∧ s.1.Shows call reply) X s := by
  intro reply t answer
  obtain ⟨rfl, shows⟩ := answer.same kind
  exact ⟨trivial, rfl, shows⟩

theorem uses_ask {C : Call → Prop} {call : Call} (h : C call) : (ask call).Uses C := by
  unfold ask
  exact (uses_call call).mpr h

theorem uses_orFail {C : Call → Prop} {command : Script Bool} (h : command.Uses C)
    (report : String) : (orFail command report).Uses C := by
  unfold orFail
  apply h.bind
  intro ok
  apply Uses.ite
  · exact uses_pure _
  · exact uses_throw _

end rules

end VitaLinux.Toolkit.Session
