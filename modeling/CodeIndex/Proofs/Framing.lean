import CodeIndex.JsonLines
import CodeIndex.Proofs.JsonText

/-!
# What is written arrives, line by line

A sink keeps some text back in its buffer, and when it hands that on depends on the sizes of all
pieces before. Over a memory none of this shows:

* `JsonLines.Carries` is a sink over a memory that was given a text, wherever it stands now; every
  part of a call carries on what was given before (`Carries.put`, `Carries.drain`);
* `Carries.write` and `Carries.flush`: a call succeeds, a write adds one line and a flush none;
* `after_framed`: whatever was called, the next call succeeds, the lines are counted, and what
  arrives is the text of each value on a line of its own.
-/

namespace CodeIndex

/-! ## Calls -/

/-- A call on a sink: to write a value, or to hand everything on. -/
inductive SinkCall where
  | write (value : Json)
  | flush
deriving Repr

/-- The value that a call writes. -/
def SinkCall.value? : SinkCall → Option Json
  | .write value => some value
  | .flush => none

/-- The texts of the values that some calls write, in order. -/
def SinkCall.written (calls : List SinkCall) : List String :=
  (calls.filterMap (·.value?)).map Json.render

namespace JsonLines

/-- A sink over a memory that holds nothing. -/
def overMemory : JsonLines := ⟨.memory "", "", 0⟩

/-- One call: the sink after it, and what it gave. -/
def call (sink : JsonLines) : SinkCall → JsonLines × Except Error Unit
  | .write value => sink.write value
  | .flush => sink.flush

/-- The sink after some calls, whatever they gave. -/
def after (sink : JsonLines) (calls : List SinkCall) : JsonLines :=
  calls.foldl (fun sink call => (sink.call call).1) sink

/-! ## One piece -/

/-- The first part of writing a piece that is not just kept: it needs room. -/
def makeRoom (sink : JsonLines) (piece : String) : Except IoCause JsonLines :=
  if sink.spare < piece.utf8ByteSize then sink.drain else .ok sink

/-- The last part: the piece goes to the device or into the buffer. -/
def place (sink : JsonLines) (piece : String) : Except IoCause JsonLines :=
  if capacity ≤ piece.utf8ByteSize then
    (sink.device.write piece).map fun device => { sink with device := device }
  else .ok (sink.keep piece)

theorem put_eq (sink : JsonLines) (piece : String) :
    sink.put piece =
      if piece.utf8ByteSize < sink.spare then .ok (sink.keep piece)
      else (sink.makeRoom piece).bind fun next => next.place piece := by
  rw [put, makeRoom]
  by_cases fits : piece.utf8ByteSize < sink.spare
  · rw [if_pos fits, if_pos fits]
  · rw [if_neg fits, if_neg fits]
    by_cases tight : sink.spare < piece.utf8ByteSize
    · simp only [if_pos tight]
      rfl
    · simp only [if_neg tight]
      rfl

/-! ## What a sink carries -/

/-- A sink over a memory that was given a text and has counted some lines: a part of the text has
arrived, and the rest is in the buffer. -/
structure Carries (sink : JsonLines) (text : String) (lines : Nat) : Prop where
  split : ∃ arrived, sink.device = .memory arrived ∧ text = arrived ++ sink.buffer
  counted : sink.count = lines

theorem carries_overMemory : overMemory.Carries "" 0 := ⟨⟨"", rfl, rfl⟩, rfl⟩

namespace Carries

variable {sink : JsonLines} {text : String} {lines : Nat}

/-- A text put into the buffer comes behind all that was given before. -/
theorem keep (carries : sink.Carries text lines) (piece : String) :
    (sink.keep piece).Carries (text ++ piece) lines := by
  obtain ⟨⟨arrived, device, given⟩, counted⟩ := carries
  refine ⟨⟨arrived, device, ?_⟩, counted⟩
  rw [given, String.append_assoc]
  rfl

/-- Emptying the buffer loses nothing. -/
theorem drain (carries : sink.Carries text lines) :
    ∃ next, sink.drain = .ok next ∧ next.Carries text lines ∧ next.buffer = "" := by
  obtain ⟨⟨arrived, device, given⟩, counted⟩ := carries
  rw [JsonLines.drain]
  split
  · next empty =>
      have nothing : sink.buffer = "" := String.utf8ByteSize_eq_zero_iff.mp empty
      exact ⟨sink, rfl, ⟨⟨arrived, device, given⟩, counted⟩, nothing⟩
  · next filled =>
      refine ⟨{ sink with device := .memory text, buffer := "" }, ?_, ?_, rfl⟩
      · rw [device, given]
        rfl
      · exact ⟨⟨text, rfl, String.append_empty.symm⟩, counted⟩

/-- With nothing in the buffer, all that was given has arrived. -/
theorem device_of_empty (carries : sink.Carries text lines) (empty : sink.buffer = "") :
    sink.device = .memory text := by
  obtain ⟨arrived, device, given⟩ := carries.split
  rw [empty, String.append_empty] at given
  rw [device, given]

/-- A text that goes straight to the device may not overtake any other one. -/
theorem write_device (carries : sink.Carries text lines) (empty : sink.buffer = "")
    (piece : String) :
    ∃ device, sink.device.write piece = .ok device ∧
      Carries { sink with device := device } (text ++ piece) lines := by
  refine ⟨.memory (text ++ piece), ?_, ⟨text ++ piece, rfl, ?_⟩, carries.counted⟩
  · rw [carries.device_of_empty empty]
    rfl
  · rw [empty, String.append_empty]

/-- Room is made without loss. A piece as large as the buffer then finds it empty: what was in it
has just been handed on, or else the piece would not fill all that is left. -/
theorem makeRoom (carries : sink.Carries text lines) (piece : String) :
    ∃ next, sink.makeRoom piece = .ok next ∧ next.Carries text lines ∧
      (capacity ≤ piece.utf8ByteSize → next.buffer = "") := by
  rw [JsonLines.makeRoom]
  split
  · obtain ⟨next, drained, carried, empty⟩ := carries.drain
    exact ⟨next, drained, carried, fun _ => empty⟩
  · next fits =>
      refine ⟨sink, rfl, carries, fun whole => ?_⟩
      have room : capacity ≤ capacity - sink.buffer.utf8ByteSize :=
        Nat.le_trans whole (Nat.not_lt.mp fits)
      have positive : 0 < capacity := by decide
      exact String.utf8ByteSize_eq_zero_iff.mp (by omega)

/-- A piece comes behind all that was given before. -/
theorem put (carries : sink.Carries text lines) (piece : String) :
    ∃ next, sink.put piece = .ok next ∧ next.Carries (text ++ piece) lines := by
  rw [put_eq]
  split
  · exact ⟨sink.keep piece, rfl, carries.keep piece⟩
  · obtain ⟨middle, made, carried, empty⟩ := carries.makeRoom piece
    rw [made, Except.bind, place]
    split
    · next whole =>
        obtain ⟨device, written, arrived⟩ := carried.write_device (empty whole) piece
        refine ⟨{ middle with device := device }, ?_, arrived⟩
        rw [written]
        rfl
    · exact ⟨middle.keep piece, rfl, carried.keep piece⟩

theorem putAll (carries : sink.Carries text lines) (pieces : List String) :
    ∃ next, sink.putAll pieces = (next, .ok ()) ∧
      next.Carries (text ++ String.join pieces) lines := by
  induction pieces generalizing sink text with
  | nil => exact ⟨sink, rfl, by rwa [String.join_nil, String.append_empty]⟩
  | cons piece rest ih =>
      obtain ⟨next, put, carried⟩ := carries.put piece
      obtain ⟨last, all, arrived⟩ := ih carried
      refine ⟨last, ?_, ?_⟩
      · rw [JsonLines.putAll, put]
        exact all
      · rwa [String.join_cons, ← String.append_assoc]

/-- A value is written as its text and a line feed, and is counted. -/
theorem write (carries : sink.Carries text lines) (value : Json) :
    ∃ next, sink.write value = (next, .ok ()) ∧
      next.Carries (text ++ (value.render ++ "\n")) (lines + 1) := by
  obtain ⟨inner, pieces, carried⟩ := carries.putAll value.pieces
  obtain ⟨next, lineEnd, ended⟩ := carried.put "\n"
  refine ⟨{ next with count := next.count + 1 }, ?_, ?_, congrArg (· + 1) ended.counted⟩
  · simp only [JsonLines.write, pieces, lineEnd]
  · rw [← String.append_assoc]
    exact ended.split

/-- A flush succeeds, and all that was given has arrived then. -/
theorem flush (carries : sink.Carries text lines) :
    ∃ next, sink.flush = (next, .ok ()) ∧ next.Carries text lines ∧
      next.device = .memory text := by
  obtain ⟨next, drained, carried, empty⟩ := carries.drain
  have device := carried.device_of_empty empty
  refine ⟨next, ?_, carried, device⟩
  simp only [JsonLines.flush, drained, device]
  rfl

theorem finish (carries : sink.Carries text lines) : sink.finish = .ok (.memory text) := by
  obtain ⟨next, drained, carried, empty⟩ := carries.drain
  simp only [JsonLines.finish, drained, carried.device_of_empty empty]

end Carries

/-! ## Any calls -/

theorem ofLines_append (earlier later : List String) :
    Text.ofLines (earlier ++ later) = Text.ofLines earlier ++ Text.ofLines later := by
  rw [Text.ofLines, List.map_append, String.join_append]
  rfl

variable {sink : JsonLines} {texts : List String}

/-- A sink over a memory that was given some lines. -/
def CarriesLines (sink : JsonLines) (texts : List String) : Prop :=
  sink.Carries (Text.ofLines texts) texts.length

/-- A call succeeds, and a value that is written is one more line. -/
theorem CarriesLines.call (carries : sink.CarriesLines texts) (call : SinkCall) :
    ∃ next, sink.call call = (next, .ok ()) ∧
      next.CarriesLines (texts ++ SinkCall.written [call]) := by
  cases call with
  | write value =>
      obtain ⟨next, written, carried⟩ := carries.write value
      refine ⟨next, written, ?_⟩
      have line : Text.ofLines [value.render] = value.render ++ "\n" :=
        String.join_cons.trans String.append_empty
      have added : SinkCall.written [.write value] = [value.render] := rfl
      rwa [added, CarriesLines, ofLines_append, line, List.length_append]
  | flush =>
      obtain ⟨next, flushed, carried, _⟩ := carries.flush
      refine ⟨next, flushed, ?_⟩
      have none : texts ++ SinkCall.written [.flush] = texts := List.append_nil texts
      rwa [none]

theorem written_cons (call : SinkCall) (calls : List SinkCall) :
    SinkCall.written (call :: calls) = SinkCall.written [call] ++ SinkCall.written calls := by
  cases call <;> rfl

/-- After any calls the sink has been given the lines of all of them. -/
theorem CarriesLines.after (carries : sink.CarriesLines texts) (calls : List SinkCall) :
    (sink.after calls).CarriesLines (texts ++ SinkCall.written calls) := by
  induction calls generalizing sink texts with
  | nil => simpa only [SinkCall.written, List.filterMap_nil, List.map_nil, List.append_nil]
  | cons call rest ih =>
      obtain ⟨next, called, carried⟩ := carries.call call
      have step : sink.after (call :: rest) = next.after rest := by
        rw [JsonLines.after, List.foldl_cons, called]
        rfl
      rw [step, written_cons, ← List.append_assoc]
      exact ih carried

/-- Lines of a sink over a memory. After any calls, in any order and with any values,

* the next call succeeds, whatever it is;
* as many lines are counted as values were written;
* what arrives in the end is the text of each value with one line feed behind it, in order;
* between the line feeds there are these texts again, with nothing behind the last one. -/
theorem after_framed (calls : List SinkCall) :
    (∀ call, ((overMemory.after calls).call call).2 = .ok ()) ∧
      (overMemory.after calls).count = (calls.filterMap (·.value?)).length ∧
      (overMemory.after calls).finish = .ok (.memory (Text.ofLines (SinkCall.written calls))) ∧
      (Text.bytes (Text.ofLines (SinkCall.written calls))).splitOn Text.lineFeed =
        (SinkCall.written calls).map Text.bytes ++ [[]] := by
  have start : overMemory.CarriesLines [] := carries_overMemory
  have carries : (overMemory.after calls).CarriesLines (SinkCall.written calls) := start.after calls
  refine ⟨fun call => ?_, ?_, carries.finish, Text.splitOn_ofLines fun line member => ?_⟩
  · obtain ⟨next, called, _⟩ := carries.call call
    rw [called]
  · rw [carries.counted, SinkCall.written, List.length_map]
  · obtain ⟨value, _, rfl⟩ := List.mem_map.mp member
    exact Json.isOneLine_render value

end JsonLines

end CodeIndex
