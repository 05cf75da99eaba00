import Mathlib.Data.List.Infix
import VitaLinux.Base.Receiving
import VitaLinux.Base.Words
import VitaLinux.Toolkit.Control.RateState
import VitaLinux.Toolkit.Fbserve

/-!
# The requests of vita-fbserve.c

`handle_request` receives until it sees a blank line or its buffer is full, and then scans
three words out of all it has. What it answers depends on how the request arrives, or is
wrongly that the request is too large, in exactly two cases: a request with a blank line
that is followed by so much that the buffer can fill up, and one whose blank line comes
before its three words. A blank line behind a zero byte is not seen.
-/

namespace VitaLinux.Toolkit.Fbserve

open VitaLinux.Base
open Control (cString isspace)

def REQUEST_BYTES : Nat := 4096

/-- An ASCII text as bytes. -/
def ascii (text : String) : List UInt8 := text.toList.map fun c => UInt8.ofNat c.toNat

/-- `strstr(text, needle) != NULL` -/
def strstr (text needle : List UInt8) : Bool := decide (needle <:+: cString text)

/-- The condition under which the loop of `handle_request` ends. -/
def terminated (request : List UInt8) : Bool :=
  strstr request [13, 10, 13, 10] || strstr request [10, 10]

/-- The conversions of `"%15s %127s %15s"`. -/
def requestLine : List Nat := [15, 127, 15]

/-- `sscanf(request, "%15s %127s %15s", ...)` -/
def sscanf (request : List UInt8) : List (List UInt8) :=
  scanWords isspace requestLine (cString request)

/-- The arguments of `send_response`. -/
structure Response where
  status : Nat
  reason : List UInt8
  contentType : List UInt8
  body : List UInt8
  deriving DecidableEq

def plain (status : Nat) (reason body : String) : Response :=
  { status, reason := ascii reason, contentType := ascii "text/plain; charset=utf-8"
    body := ascii body }

/-- `header` in `send_response` -/
def Response.header (response : Response) : List UInt8 :=
  ascii "HTTP/1.0 " ++ (decimal response.status ++ (ascii " " ++ response.reason ++
    ascii "\r\nContent-Type: " ++ response.contentType ++ ascii "\r\nContent-Length: " ++
    decimal response.body.length ++ ascii "\r\nConnection: close\r\n\r\n"))

/-- What `send_response` sends: nothing if the header does not fit its buffer. -/
def Response.bytes (response : Response) : List UInt8 :=
  if 512 ≤ response.header.length then [] else response.header ++ response.body

/-- `handle_request` from `sscanf` on; `frame` is what `read_frame` reads, if it can. -/
def respond (bitmap : Memory) (frame : Option Memory) (request : List UInt8) : Response :=
  match sscanf request with
  | [method, path, _version] =>
    if method ≠ ascii "GET" then plain 405 "Method Not Allowed" "GET only\n"
    else if path = ascii "/health" then plain 200 "OK" "status=ok\nread_only=1\n"
    else if path ≠ ascii "/" ∧ path ≠ ascii "/frame.bmp" then plain 404 "Not Found" "not found\n"
    else
      match frame with
      | none => plain 503 "Service Unavailable" "framebuffer read failed\n"
      | some framebuffer =>
        { status := 200, reason := ascii "OK", contentType := ascii "image/bmp"
          body := bitmapFile bitmap framebuffer }
  | _ => plain 400 "Bad Request" "bad request\n"

/-- `handle_request` after its loop, with `used` if it was left for a blank line or for want of
room. -/
def answer (bitmap : Memory) (frame : Option Memory) (sent : List UInt8) :
    Option Nat → Option Response
  | none => none
  | some used =>
    if used = REQUEST_BYTES then some (plain 413 "Payload Too Large" "request too large\n")
    else some (respond bitmap frame (sent.take used))

/-- `handle_request` for what the client sends before it closes its side. A call of `recv` that
is interrupted is made again and takes nothing. -/
def handleRequest (bitmap : Memory) (frame : Option Memory) (sent : List UInt8) (cuts : Cuts) :
    Option Response :=
  answer bitmap frame sent (receive terminated REQUEST_BYTES sent cuts REQUEST_BYTES 0)

/-- Every response of `handle_request` has a header of this size. -/
def Response.Short (response : Response) : Prop :=
  response.status < 1000 ∧ response.reason.length ≤ 30 ∧ response.contentType.length ≤ 30 ∧
    response.body.length < 10 ^ 20

theorem Response.Short.header {response : Response} (short : response.Short) :
    response.header.length < 512 := by
  obtain ⟨status, reason, contentType, body⟩ := short
  have code := decimal_length_le (show 0 < 3 by decide) status
  have size := decimal_length_le (show 0 < 20 by decide) body
  have version : (ascii "HTTP/1.0 ").length = 9 := rfl
  have blank : (ascii " ").length = 1 := rfl
  have type : (ascii "\r\nContent-Type: ").length = 16 := rfl
  have length : (ascii "\r\nContent-Length: ").length = 18 := rfl
  have close : (ascii "\r\nConnection: close\r\n\r\n").length = 23 := rfl
  simp only [Response.header, List.length_append, version, blank, type, length, close]
  omega

/-- The status in the bytes of a response. -/
def statusOf (bytes : List UInt8) : Nat := decimalValue ((bytes.drop 9).takeWhile isDigit)

/-- A client reads the status that was meant. -/
theorem statusOf_bytes {response : Response} (short : response.Short) :
    statusOf response.bytes = response.status := by
  have fits := short.header
  have version : ascii "HTTP/1.0 " = [72, 84, 84, 80, 47, 49, 46, 48, 32] := rfl
  have blank : ascii " " = [32] := rfl
  have digits : ∀ c ∈ decimal response.status, isDigit c = true := fun _ => isDigit_decimal
  rw [Response.bytes, if_neg (Nat.not_le.mpr fits), Response.header, version, blank, statusOf]
  simp only [List.cons_append, List.nil_append, List.append_assoc, List.drop_succ_cons,
    List.drop_zero]
  rw [List.takeWhile_append_of_pos digits, List.takeWhile_cons_of_neg (by decide),
    List.append_nil, decimalValue_decimal]

theorem plain_short {status : Nat} {reason body : String} (code : status < 1000)
    (brief : reason.toList.length ≤ 30) (small : body.toList.length < 10 ^ 20) :
    (plain status reason body).Short := by
  have type : (ascii "text/plain; charset=utf-8").length = 25 := rfl
  refine ⟨code, ?_, ?_, ?_⟩
  · simpa [plain, ascii] using brief
  · simp only [plain, type]
    decide
  · simpa [plain, ascii] using small

/-- The answer to a request that is not too large: 400 for want of three words. -/
theorem respond_status (bitmap : Memory) (frame : Option Memory) (request : List UInt8) :
    (respond bitmap frame request).Short ∧ (respond bitmap frame request).status ≠ 413 ∧
      ((respond bitmap frame request).status = 400 ↔ (sscanf request).length ≠ 3) := by
  unfold respond
  split
  · next method path version words =>
    rw [words]
    have known {response : Response} (short : response.Short) (code : response.status ≠ 413)
        (good : response.status ≠ 400) : response.Short ∧ response.status ≠ 413 ∧
          (response.status = 400 ↔ [method, path, version].length ≠ 3) :=
      ⟨short, code, iff_of_false good fun few => few rfl⟩
    split
    · exact known (plain_short (by decide) (by decide) (by decide)) (by decide) (by decide)
    split
    · exact known (plain_short (by decide) (by decide) (by decide)) (by decide) (by decide)
    split
    · exact known (plain_short (by decide) (by decide) (by decide)) (by decide) (by decide)
    cases frame with
    | none =>
      dsimp only
      exact known (plain_short (by decide) (by decide) (by decide)) (by decide) (by decide)
    | some framebuffer =>
      have small : (bitmapFile bitmap framebuffer).length < 10 ^ 20 := by
        rw [length_bitmapFile]
        omega
      have ok : (200 : Nat) < 1000 ∧ (200 : Nat) ≠ 413 ∧ (200 : Nat) ≠ 400 := by decide
      have texts : (ascii "OK").length ≤ 30 ∧ (ascii "image/bmp").length ≤ 30 := by decide
      dsimp only
      generalize bitmapFile bitmap framebuffer = body at small
      exact known ⟨ok.1, texts.1, texts.2, small⟩ ok.2.1 ok.2.2
  · next few =>
    refine ⟨plain_short (by decide) (by decide) (by decide), by decide, fun _ three => ?_,
      fun _ => rfl⟩
    obtain ⟨method, path, version, words⟩ := List.length_eq_three.mp three
    exact few method path version words

/-- Without three words the rest does not matter. -/
theorem respond_few (bitmap : Memory) (frame : Option Memory) {request : List UInt8}
    (few : (sscanf request).length ≠ 3) :
    respond bitmap frame request = plain 400 "Bad Request" "bad request\n" := by
  unfold respond
  split
  · next words =>
    rw [words] at few
    exact absurd rfl few
  · rfl

theorem respond_congr (bitmap : Memory) (frame : Option Memory) {request request' : List UInt8}
    (same : sscanf request = sscanf request') :
    respond bitmap frame request = respond bitmap frame request' := by
  unfold respond
  rw [same]

/-! ## Blank lines -/

/-- There is a blank line among the bytes. -/
def HasBlankLine (bytes : List UInt8) : Prop :=
  [13, 10, 13, 10] <:+: bytes ∨ [10, 10] <:+: bytes

instance (bytes : List UInt8) : Decidable (HasBlankLine bytes) := inferInstanceAs (Decidable (_ ∨ _))

/-- The first blank line ends after `k` bytes. -/
def BlankLine (sent : List UInt8) (k : Nat) : Prop :=
  k ≤ sent.length ∧ HasBlankLine (sent.take k) ∧ ∀ j < k, ¬ HasBlankLine (sent.take j)

theorem HasBlankLine.grows {bytes more : List UInt8} (h : HasBlankLine bytes)
    (within : bytes <:+: more) : HasBlankLine more :=
  h.imp (·.trans within) (·.trans within)

theorem exists_blankLine {sent : List UInt8} {used : Nat} (here : used ≤ sent.length)
    (h : HasBlankLine (sent.take used)) : ∃ k ≤ used, BlankLine sent k := by
  have some : ∃ k, HasBlankLine (sent.take k) := ⟨used, h⟩
  have least := Nat.find_min' some h
  exact ⟨Nat.find some, least, least.trans here, Nat.find_spec some,
    fun j before => Nat.find_min some before⟩

/-- Nothing follows the first blank line before its end. -/
theorem BlankLine.suffix {sent needle : List UInt8} {k : Nat} (h : BlankLine sent k)
    (blank : ∀ bytes, needle <:+: bytes → HasBlankLine bytes) (line : needle <:+: sent.take k) :
    needle <:+ sent.take k := by
  obtain ⟨before, after, parts⟩ := line
  by_cases last : after = []
  · rw [last, List.append_nil] at parts
    exact ⟨before, parts⟩
  · have length : (sent.take k).length = k := by rw [List.length_take, Nat.min_eq_left h.1]
    have sizes := congrArg List.length parts
    have more : 0 < after.length := List.length_pos_iff.mpr last
    rw [List.length_append, length] at sizes
    have cut : sent.take (before ++ needle).length = before ++ needle := by
      have taken : (sent.take k).take (before ++ needle).length = before ++ needle := by
        rw [← parts, List.take_left]
      rwa [List.take_take, Nat.min_eq_left (by omega)] at taken
    refine absurd (blank _ ?_) (h.2.2 (before ++ needle).length (by omega))
    rw [cut]
    exact (List.suffix_append before needle).isInfix

/-- The first blank line ends in a newline. -/
theorem BlankLine.endsBlank {sent : List UInt8} {k : Nat} (h : BlankLine sent k) :
    EndsBlank isspace (sent.take k) := by
  obtain crlf | lf := h.2.1
  · have last := h.suffix (fun _ => .inl) crlf
    refine ⟨last.ne_nil (by decide), ?_⟩
    rw [← last.getLast (by decide)]
    rfl
  · have last := h.suffix (fun _ => .inr) lf
    refine ⟨last.ne_nil (by decide), ?_⟩
    rw [← last.getLast (by decide)]
    rfl

section cString

theorem terminated_iff (text : List UInt8) :
    terminated text = true ↔ HasBlankLine (cString text) := by
  simp [terminated, strstr, HasBlankLine]

theorem cString_of_nonzero {text : List UInt8} (nonzero : 0 ∉ text) : cString text = text := by
  rw [cString, List.takeWhile_eq_self_iff]
  intro c member
  rw [decide_eq_true_iff]
  rintro rfl
  exact nonzero member

theorem cString_append {text more : List UInt8} (nonzero : 0 ∉ text) :
    cString (text ++ more) = text ++ cString more := by
  have whole := cString_of_nonzero nonzero
  rw [cString, List.takeWhile_eq_self_iff] at whole
  exact List.takeWhile_append_of_pos whole

/-- What follows a zero byte is not part of the text. -/
theorem cString_append_of_zero {text : List UInt8} (zero : 0 ∈ text) (more : List UInt8) :
    cString (text ++ more) = cString text := by
  unfold cString
  rw [List.takeWhile_append, if_neg]
  intro whole
  have self := (List.takeWhile_prefix _).eq_of_length whole
  rw [List.takeWhile_eq_self_iff] at self
  exact absurd (self 0 zero) (by decide)

theorem cString_prefix (text more : List UInt8) : cString text <+: cString (text ++ more) := by
  by_cases zero : 0 ∈ text
  · rw [cString_append_of_zero zero]
  · rw [cString_append zero, cString_of_nonzero zero]
    exact List.prefix_append _ _

theorem cString_take (sent : List UInt8) (used : Nat) :
    cString (sent.take used) <+: cString sent := by
  have grown := cString_prefix (sent.take used) (sent.drop used)
  rwa [List.take_append_drop] at grown

theorem terminated_grows {sent : List UInt8} {used : Nat}
    (h : terminated (sent.take used) = true) : terminated sent = true := by
  rw [terminated_iff] at h ⊢
  exact h.grows (cString_take sent used).isInfix

/-- What ends the loop is a blank line. -/
theorem HasBlankLine.of_terminated {text : List UInt8} (h : terminated text = true) :
    HasBlankLine text :=
  ((terminated_iff text).mp h).grows (List.takeWhile_prefix _).isInfix

/-- A blank line ends the loop, if no zero byte is before it. -/
theorem BlankLine.terminated {sent : List UInt8} {k : Nat} (h : BlankLine sent k)
    (nonzero : 0 ∉ sent.take k) : terminated (sent.take k) = true := by
  rw [terminated_iff, cString_of_nonzero nonzero]
  exact h.2.1

/-- Behind a zero byte, no blank line ends the loop. -/
theorem BlankLine.hidden {sent : List UInt8} {k : Nat} (h : BlankLine sent k)
    (zero : 0 ∈ sent.take k) (used : Nat) : Fbserve.terminated (sent.take used) = false := by
  rw [← Bool.not_eq_true, terminated_iff]
  intro blank
  have whole : cString sent = cString (sent.take k) := by
    conv_lhs => rw [← List.take_append_drop k sent]
    exact cString_append_of_zero zero _
  have seen := blank.grows (cString_take sent used).isInfix
  rw [whole] at seen
  have short : cString (sent.take k) <+: sent.take k := List.takeWhile_prefix _
  have early : (cString (sent.take k)).length < k := by
    by_contra long
    have length : (sent.take k).length ≤ k := List.length_take_le k sent
    have same := short.eq_of_length (Nat.le_antisymm short.length_le (by omega))
    rw [← same, cString] at zero
    exact absurd (List.mem_takeWhile_imp zero) (by decide)
  refine h.2.2 _ early ?_
  rw [← List.prefix_iff_eq_take.mp (short.trans (List.take_prefix k sent))]
  exact seen

/-- What comes later only follows the request up to its blank line. -/
theorem BlankLine.sscanf_eq {sent : List UInt8} {k used : Nat} (h : BlankLine sent k)
    (nonzero : 0 ∉ sent.take k) (later : k ≤ used)
    (complete : (sscanf (sent.take k)).length = 3) :
    sscanf (sent.take used) = sscanf (sent.take k) := by
  have split : sent.take used = sent.take k ++ (sent.drop k).take (used - k) := by
    conv_lhs => rw [← Nat.add_sub_of_le later, List.take_add]
  unfold sscanf at complete ⊢
  rw [cString_of_nonzero nonzero] at complete ⊢
  rw [split, cString_append nonzero]
  exact h.endsBlank.scanWords_append _ complete

end cString

/-- The words of a request that has come further are not fewer. -/
theorem sscanf_grows (sent : List UInt8) (used : Nat) :
    (sscanf (sent.take used)).length ≤ (sscanf sent).length := by
  obtain ⟨more, longer⟩ := cString_take sent used
  unfold sscanf
  rw [← longer]
  exact scanWords_length_mono _ _ _

/-! ## Does it matter how a request arrives? -/

section Segmentation

variable (bitmap : Memory) (frame : Option Memory) (sent : List UInt8)

/-- The client gets the same bytes however `recv` cuts what it sends. -/
def Insensitive : Prop :=
  ∀ cuts cuts' : Nat → Nat,
    (handleRequest bitmap frame sent fun offset => some (cuts offset)).map Response.bytes =
      (handleRequest bitmap frame sent fun offset => some (cuts' offset)).map Response.bytes

/-- A request whose blank line ends in the first 4096 bytes is not too large. -/
def NeverTooLarge : Prop :=
  ∀ k ≤ REQUEST_BYTES, BlankLine sent k → ∀ (cuts : Nat → Nat) (response : Response),
    handleRequest bitmap frame sent (fun offset => some (cuts offset)) = some response →
      response.status ≠ 413

/-- Where there is a blank line within the buffer, the whole stream is shorter than the buffer;
and if the blank line can be seen, it is not the reason why there are less than three words. -/
def WellDelimited : Prop :=
  ∀ k ≤ REQUEST_BYTES, BlankLine sent k → sent.length < REQUEST_BYTES ∧
    (0 ∉ sent.take k → (sscanf (sent.take k)).length = 3 ∨ (sscanf sent).length ≠ 3)

variable {bitmap frame sent}

theorem insensitive_iff : Insensitive bitmap frame sent ↔
    ∀ used used', Ending terminated REQUEST_BYTES sent used →
      Ending terminated REQUEST_BYTES sent used' →
      (answer bitmap frame sent (some used)).map Response.bytes =
        (answer bitmap frame sent (some used')).map Response.bytes :=
  receive_agree_iff (fun used => (answer bitmap frame sent used).map Response.bytes)
    (by decide) (by decide) fun _ => terminated_grows

theorem handleRequest_too_large (long : REQUEST_BYTES ≤ sent.length) :
    handleRequest bitmap frame sent (fun _ => some REQUEST_BYTES) =
      some (plain 413 "Payload Too Large" "request too large\n") := by
  have ends : Ending terminated REQUEST_BYTES sent REQUEST_BYTES :=
    ⟨by decide, Nat.le_refl _, long, .inr rfl⟩
  have full := ends.reached 4095 (by decide)
  rw [handleRequest, show REQUEST_BYTES = 4095 + 1 from rfl] at *
  rw [full]
  rfl

/-- A stream that is shorter than the buffer does not fill it. -/
theorem Ending.below {used : Nat} (h : Ending terminated REQUEST_BYTES sent used)
    (small : sent.length < REQUEST_BYTES) : used < REQUEST_BYTES :=
  h.2.2.1.trans_lt small

/-- Short of the buffer's size, an end is at or behind the first blank line. -/
theorem Ending.after_blankLine {used k : Nat} (h : Ending terminated REQUEST_BYTES sent used)
    (small : sent.length < REQUEST_BYTES) (line : BlankLine sent k) : k ≤ used := by
  have below := Ending.below h small
  obtain ⟨_, _, _, found | full⟩ := h
  · by_contra before
    exact line.2.2 used (Nat.not_le.mp before) (HasBlankLine.of_terminated found)
  · omega

/-- The whole stream and the stream up to the blank line are both an end of the receiving, and
so is a full buffer. -/
theorem WellDelimited.of_insensitive (insensitive : Insensitive bitmap frame sent)
    (never : NeverTooLarge bitmap frame sent) : WellDelimited sent := by
  intro k early line
  have small : sent.length < REQUEST_BYTES := by
    by_contra long
    exact never k early line _ _ (handleRequest_too_large (Nat.not_lt.mp long)) rfl
  refine ⟨small, fun nonzero => or_iff_not_imp_left.mpr fun incomplete complete => ?_⟩
  have here := line.terminated nonzero
  have positive : 0 < k := by
    by_contra none
    rw [show k = 0 by omega] at here
    cases here
  have some : terminated (sent.take sent.length) = true := by
    rw [List.take_length]
    exact terminated_grows here
  have same := insensitive_iff.mp insensitive k sent.length ⟨positive, early, line.1, .inl here⟩
    ⟨by have := line.1; omega, by omega, Nat.le_refl _, .inl some⟩
  have before : k ≠ REQUEST_BYTES := by have := line.1; omega
  simp only [answer, if_neg before, if_neg (Nat.ne_of_lt small), Option.map_some,
    Option.some.injEq, List.take_length] at same
  obtain ⟨short, _, bad⟩ := respond_status bitmap frame (sent.take k)
  obtain ⟨short', _, good⟩ := respond_status bitmap frame sent
  have status := congrArg statusOf same
  rw [statusOf_bytes short, statusOf_bytes short', bad.mpr incomplete] at status
  exact good.mp status.symm complete

section small

variable (small : sent.length < REQUEST_BYTES)
include small

/-- Every end has the blank line in it, and with it the same three words, or none has them. -/
theorem BlankLine.insensitive {k : Nat} (line : BlankLine sent k) (nonzero : 0 ∉ sent.take k)
    (words : (sscanf (sent.take k)).length = 3 ∨ (sscanf sent).length ≠ 3) :
    Insensitive bitmap frame sent := by
  refine insensitive_iff.mpr fun used used' ends ends' => ?_
  have below := Ending.below ends small
  have below' := Ending.below ends' small
  have later := Ending.after_blankLine ends small line
  have later' := Ending.after_blankLine ends' small line
  simp only [answer, if_neg (Nat.ne_of_lt below), if_neg (Nat.ne_of_lt below')]
  obtain complete | few := words
  · rw [respond_congr bitmap frame ((line.sscanf_eq nonzero later complete).trans
      (line.sscanf_eq nonzero later' complete).symm)]
  · have still (used : Nat) : (sscanf (sent.take used)).length ≠ 3 := by
      have bound := sscanf_grows sent used
      have most : (sscanf sent).length ≤ 3 := scanWords_length_le _ _
      omega
    rw [respond_few bitmap frame (still used), respond_few bitmap frame (still used')]

theorem neverTooLarge_of_small : NeverTooLarge bitmap frame sent := by
  intro _ _ _ cuts response answered
  unfold handleRequest at answered
  cases received : receive terminated REQUEST_BYTES sent (fun offset => some (cuts offset))
      REQUEST_BYTES 0 with
  | none =>
    rw [received] at answered
    cases answered
  | some used =>
    have ends := receive_ending (by decide) (Nat.zero_le _) (Nat.zero_le _) (by decide) received
    rw [received, answer, if_neg (Nat.ne_of_lt (Ending.below ends small))] at answered
    cases answered
    exact (respond_status bitmap frame _).2.1

end small

/-- A request in which no blank line is seen ends with a full buffer, or not at all. -/
theorem insensitive_of_unseen (unseen : ∀ used ≤ REQUEST_BYTES, used ≤ sent.length →
    terminated (sent.take used) = false) : Insensitive bitmap frame sent := by
  have full {used : Nat} (ends : Ending terminated REQUEST_BYTES sent used) :
      used = REQUEST_BYTES := by
    obtain ⟨_, below, here, found | full⟩ := ends
    · rw [unseen used below here] at found
      cases found
    · exact full
  refine insensitive_iff.mpr fun used used' ends ends' => ?_
  rw [full ends, full ends']

/-- The responses are the same for every way to cut the stream, and a request with a blank line
in the first 4096 bytes is never too large, exactly when the stream is well delimited. -/
theorem segmentation_iff (bitmap : Memory) (frame : Option Memory) (sent : List UInt8) :
    (Insensitive bitmap frame sent ∧ NeverTooLarge bitmap frame sent) ↔ WellDelimited sent := by
  constructor
  · rintro ⟨insensitive, never⟩
    exact .of_insensitive insensitive never
  · intro delimited
    by_cases line : ∃ k ≤ REQUEST_BYTES, BlankLine sent k
    · obtain ⟨k, early, line⟩ := line
      obtain ⟨small, words⟩ := delimited k early line
      refine ⟨?_, neverTooLarge_of_small small⟩
      by_cases zero : 0 ∈ sent.take k
      · exact insensitive_of_unseen fun used _ _ => line.hidden zero used
      · exact line.insensitive small zero (words zero)
    · refine ⟨insensitive_of_unseen fun used below here => ?_, fun k early first => ?_⟩
      · rw [← Bool.not_eq_true]
        intro found
        obtain ⟨k, early, first⟩ := exists_blankLine here (.of_terminated found)
        exact line ⟨k, early.trans below, first⟩
      · exact absurd ⟨k, early, first⟩ line

/-- A health check that is sent together with much more. -/
def trailing : List UInt8 := ascii "GET /health HTTP/1.0\r\n\r\n" ++ List.replicate 4096 32

theorem trailing_depends_on_segments :
    ¬ ∀ (bitmap : Memory) (frame : Option Memory) (sent : List UInt8),
      Insensitive bitmap frame sent ∧ NeverTooLarge bitmap frame sent := by
  intro all
  obtain ⟨insensitive, never⟩ := all (fun _ => 0) none trailing
  have delimited : WellDelimited trailing := .of_insensitive insensitive never
  have line : BlankLine trailing 24 := by
    refine ⟨?_, by decide +kernel, by decide +kernel⟩
    rw [trailing, List.length_append, List.length_replicate]
    exact Nat.le_add_right 24 4096
  have short := (delimited 24 (by decide) line).1
  rw [trailing, List.length_append, List.length_replicate] at short
  exact absurd short (by decide)

end Segmentation

end VitaLinux.Toolkit.Fbserve
