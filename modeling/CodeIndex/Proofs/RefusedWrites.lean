import CodeIndex.Proofs.Framing
import Mathlib.Data.String.Basic

/-!
# Writes to a device that refuses everything

A sink over a device that refuses every text still takes what fits into its buffer, and nothing
ever leaves the buffer again. So the sizes of all pieces before settle what the next call gives.

* `kept`: of the pieces of a line, those in front of the first one that finds no room; if they all
  `Fit`, these are all of them.
* `Refused.putAll` and `Refused.write` are one call: what is kept, and at which part of a write the
  device is met.
* `Refused.after`: the buffer holds what was kept of every line, and the lines are counted.
* `refused_calls`: what every call gives. A refused write is reported as one unless it is the value
  that finds no room; what is refused in the middle of a value passes for a value that cannot be
  written.
-/

namespace CodeIndex

/-- The pieces that a call writes, in order. -/
def SinkCall.pieces : SinkCall → List String
  | .write value => value.pieces ++ ["\n"]
  | .flush => []

/-- A text with nothing to escape is one piece of its string. -/
theorem Json.contentPieces_of_plain {run text : List Char}
    (plain : ∀ c ∈ text, escape? c = none) (filled : run ++ text ≠ []) :
    contentPieces run text = [String.ofList (run.reverse ++ text)] := by
  induction text generalizing run with
  | nil => cases run <;> simp_all [contentPieces]
  | cons c rest ih =>
      obtain ⟨here, others⟩ := List.forall_mem_cons.mp plain
      rw [contentPieces, here]
      simp only
      rw [ih others (List.cons_ne_nil _ _)]
      simp

namespace JsonLines

/-- A sink over a device that refuses every text, before the first call. -/
def overRefusing (refusal : Refusal) : JsonLines := ⟨.refusing refusal, "", 0⟩

/-- Some calls with what each of them gave. -/
def results (sink : JsonLines) : List SinkCall → List (SinkCall × Except Error Unit)
  | [] => []
  | call :: rest => (call, (sink.call call).2) :: (sink.call call).1.results rest

/-- A line was written without an error. -/
def isWritten : SinkCall × Except Error Unit → Bool
  | (.write _, .ok ()) => true
  | _ => false

/-- How many bytes are in the buffer. -/
def used (sink : JsonLines) : Nat := sink.buffer.utf8ByteSize

/-! ## What finds room -/

/-- A piece finds room behind so many bytes: there is space for it, and it is not as large as the
whole buffer. -/
def HasRoom (used : Nat) (piece : String) : Prop :=
  used + piece.utf8ByteSize ≤ capacity ∧ piece.utf8ByteSize < capacity

instance (used : Nat) (piece : String) : Decidable (HasRoom used piece) :=
  inferInstanceAs (Decidable (_ ∧ _))

theorem hasRoom_lineEnd {used : Nat} : HasRoom used "\n" ↔ used < capacity := by
  have size : "\n".utf8ByteSize = 1 := rfl
  have large : 1 < capacity := by decide
  rw [HasRoom, size]
  exact ⟨fun room => room.1, fun space => ⟨space, large⟩⟩

/-- The pieces that are kept behind so many bytes: those in front of the first one that finds no
room. -/
def kept (used : Nat) : List String → List String
  | [] => []
  | piece :: rest =>
    if HasRoom used piece then piece :: kept (used + piece.utf8ByteSize) rest else []

/-- All of some pieces find room behind so many bytes. -/
def Fit (used : Nat) (pieces : List String) : Prop :=
  used + (String.join pieces).utf8ByteSize ≤ capacity ∧
    ∀ piece ∈ pieces, piece.utf8ByteSize < capacity

instance (used : Nat) (pieces : List String) : Decidable (Fit used pieces) :=
  inferInstanceAs (Decidable (_ ∧ _))

theorem size_join_cons (piece : String) (rest : List String) :
    (String.join (piece :: rest)).utf8ByteSize =
      piece.utf8ByteSize + (String.join rest).utf8ByteSize := by
  rw [String.join_cons, String.utf8ByteSize_append]

theorem fit_nil {used : Nat} : Fit used [] ↔ used ≤ capacity := by
  simp [Fit]

theorem fit_cons {used : Nat} {piece : String} {rest : List String} :
    Fit used (piece :: rest) ↔ HasRoom used piece ∧ Fit (used + piece.utf8ByteSize) rest := by
  unfold Fit HasRoom
  rw [size_join_cons, List.forall_mem_cons]
  constructor
  · rintro ⟨space, small, others⟩
    exact ⟨⟨by omega, small⟩, by omega, others⟩
  · rintro ⟨⟨_, small⟩, space, others⟩
    exact ⟨by omega, small, others⟩

theorem kept_of_fit {used : Nat} {pieces : List String} (fit : Fit used pieces) :
    kept used pieces = pieces := by
  induction pieces generalizing used with
  | nil => rfl
  | cons piece rest ih =>
      obtain ⟨room, others⟩ := fit_cons.mp fit
      rw [kept, if_pos room, ih others]

/-- What is kept does not overrun the buffer. -/
theorem size_kept_le {used : Nat} (bound : used ≤ capacity) (pieces : List String) :
    used + (String.join (kept used pieces)).utf8ByteSize ≤ capacity := by
  induction pieces generalizing used with
  | nil => simpa [kept] using bound
  | cons piece rest ih =>
      rw [kept]
      split
      · next room =>
          rw [size_join_cons, ← Nat.add_assoc]
          exact ih room.1
      · simpa using bound

/-- Behind pieces that all find room, the next ones are kept as long as they find room too. -/
theorem kept_append_of_fit {used : Nat} {pieces : List String} (fit : Fit used pieces)
    (more : List String) :
    kept used (pieces ++ more) =
      pieces ++ kept (used + (String.join pieces).utf8ByteSize) more := by
  induction pieces generalizing used with
  | nil => simp
  | cons piece rest ih =>
      obtain ⟨room, others⟩ := fit_cons.mp fit
      rw [List.cons_append, kept, if_pos room, ih others, size_join_cons, Nat.add_assoc,
        List.cons_append]

/-- Behind a piece that finds no room nothing is kept. -/
theorem kept_append_of_not_fit {used : Nat} (bound : used ≤ capacity) {pieces : List String}
    (refused : ¬Fit used pieces) (more : List String) :
    kept used (pieces ++ more) = kept used pieces := by
  induction pieces generalizing used with
  | nil => exact absurd (fit_nil.mpr bound) refused
  | cons piece rest ih =>
      rw [List.cons_append, kept, kept]
      split
      · next room =>
          rw [ih room.1 fun others => refused (fit_cons.mpr ⟨room, others⟩)]
      · rfl

/-! ## One call -/

/-- A sink over a device that refuses every text. Its buffer is not overrun. -/
structure Refused (refusal : Refusal) (sink : JsonLines) : Prop where
  device : sink.device = .refusing refusal
  bound : sink.used ≤ capacity

theorem refused_overRefusing (refusal : Refusal) : (overRefusing refusal).Refused refusal :=
  ⟨rfl, Nat.zero_le capacity⟩

theorem keep_empty (sink : JsonLines) : sink.keep "" = sink := by
  rw [keep, String.append_empty]

theorem keep_keep (sink : JsonLines) (text more : String) :
    (sink.keep text).keep more = sink.keep (text ++ more) := by
  simp only [keep, String.append_assoc]

theorem used_keep (sink : JsonLines) (text : String) :
    (sink.keep text).used = sink.used + text.utf8ByteSize := String.utf8ByteSize_append

/-- What a write of a value gives, behind so many bytes that a device has refused: an error of
serialization if the value finds no room, and one of output if just its line end finds none. -/
def verdict (refusal : Refusal) (used : Nat) (value : Json) : Except Error Unit :=
  if Fit used value.pieces then
    if used + value.render.utf8ByteSize < capacity then .ok () else .error (.io refusal.cause)
  else .error (.serialization refusal.cause)

namespace Refused

variable {refusal : Refusal} {sink : JsonLines}

theorem keep (refused : sink.Refused refusal) {text : String}
    (bound : sink.used + text.utf8ByteSize ≤ capacity) : (sink.keep text).Refused refusal :=
  ⟨refused.device, (used_keep sink text).symm ▸ bound⟩

/-- Whatever is in the buffer stays there. -/
theorem drain (refused : sink.Refused refusal) :
    sink.drain = if sink.buffer = "" then .ok sink else .error refusal.cause := by
  rw [JsonLines.drain, refused.device]
  by_cases empty : sink.buffer = ""
  · rw [if_pos empty, if_pos (String.utf8ByteSize_eq_zero_iff.mpr empty)]
  · rw [if_neg empty, if_neg fun none => empty (String.utf8ByteSize_eq_zero_iff.mp none)]
    rfl

/-- A piece is kept if it finds room, and refused otherwise. -/
theorem put (refused : sink.Refused refusal) (piece : String) :
    sink.put piece =
      if HasRoom sink.used piece then .ok (sink.keep piece) else .error refusal.cause := by
  have bound := refused.bound
  have left : sink.spare = capacity - sink.used := rfl
  rw [put_eq]
  by_cases fits : piece.utf8ByteSize < sink.spare
  · rw [if_pos fits, if_pos ⟨by omega, by omega⟩]
  · rw [if_neg fits, makeRoom]
    by_cases tight : sink.spare < piece.utf8ByteSize
    · -- the buffer is to be emptied first, unless it is empty and too small for the piece
      have noRoom : ¬HasRoom sink.used piece := fun room => by
        have space := room.1
        omega
      rw [if_pos tight, if_neg noRoom, refused.drain]
      by_cases empty : sink.buffer = ""
      · have nothing : sink.used = 0 := String.utf8ByteSize_eq_zero_iff.mpr empty
        rw [if_pos empty, Except.bind, place, if_pos (by omega), refused.device]
        rfl
      · rw [if_neg empty, Except.bind]
    · -- the piece takes all the space that is left
      rw [if_neg tight, Except.bind, place]
      by_cases whole : capacity ≤ piece.utf8ByteSize
      · rw [if_pos whole, if_neg fun room => Nat.not_lt.mpr whole room.2, refused.device]
        rfl
      · rw [if_neg whole, if_pos ⟨by omega, by omega⟩]

theorem putAll (refused : sink.Refused refusal) (pieces : List String) :
    sink.putAll pieces =
      (sink.keep (String.join (kept sink.used pieces)),
        if Fit sink.used pieces then .ok () else .error refusal.cause) := by
  induction pieces generalizing sink with
  | nil => rw [if_pos (fit_nil.mpr refused.bound), kept, String.join_nil, keep_empty]; rfl
  | cons piece rest ih =>
      rw [JsonLines.putAll, refused.put, kept]
      by_cases room : HasRoom sink.used piece
      · have next := ih (refused.keep room.1)
        rw [used_keep] at next
        simp only [if_pos room, next, keep_keep, String.join_cons]
        simp only [fit_cons, room, true_and]
      · rw [if_neg room, if_neg room, if_neg fun fit => room (fit_cons.mp fit).1,
          String.join_nil, keep_empty]

/-- A write keeps what finds room of the line, and counts the line if that is all of it. -/
theorem write (refused : sink.Refused refusal) (value : Json) :
    sink.write value =
      ({ sink.keep (String.join (kept sink.used (value.pieces ++ ["\n"]))) with
          count := sink.count + (verdict refusal sink.used value).toBool.toNat },
        verdict refusal sink.used value) := by
  have size : (String.join value.pieces).utf8ByteSize = value.render.utf8ByteSize := rfl
  rw [JsonLines.write, refused.putAll, verdict]
  by_cases fit : Fit sink.used value.pieces
  · have next := (refused.keep fit.1).put "\n"
    rw [used_keep, size] at next
    rw [if_pos fit, if_pos fit, kept_append_of_fit fit, kept_of_fit fit, String.join_append,
      ← keep_keep, size, kept]
    simp only [next, hasRoom_lineEnd]
    by_cases space : sink.used + value.render.utf8ByteSize < capacity
    · simp only [if_pos space]
      rfl
    · simp only [if_neg space, String.join_nil, keep_empty]
      rfl
  · rw [if_neg fit, if_neg fit, kept_append_of_not_fit refused.bound fit]
    rfl

/-- A flush leaves everything as it is. -/
theorem flush (refused : sink.Refused refusal) :
    sink.flush = (sink, if sink.buffer = "" ∧ refusal.flushFails = false then .ok ()
      else .error (.io refusal.cause)) := by
  rw [JsonLines.flush, refused.drain]
  by_cases empty : sink.buffer = ""
  · simp only [if_pos empty, refused.device, Device.flush]
    cases refusal.flushFails <;> simp [empty]
  · simp [empty]

theorem finish (refused : sink.Refused refusal) :
    sink.finish = if sink.buffer = "" then .ok (.refusing refusal)
      else .error (.io refusal.cause) := by
  rw [JsonLines.finish, refused.drain]
  by_cases empty : sink.buffer = ""
  · simp only [if_pos empty, refused.device]
  · simp only [if_neg empty]

/-- A call keeps what finds room of its pieces, and counts a line that was written. -/
theorem call (refused : sink.Refused refusal) (call : SinkCall) :
    (sink.call call).1 =
      { sink.keep (String.join (kept sink.used call.pieces)) with
        count := sink.count + (isWritten (call, (sink.call call).2)).toNat } := by
  cases call with
  | write value =>
      simp only [JsonLines.call, refused.write, SinkCall.pieces]
      cases verdict refusal sink.used value <;> rfl
  | flush =>
      simp only [JsonLines.call, refused.flush]
      exact (keep_empty sink).symm

/-- A device that refuses everything goes on to do so, whatever is called. -/
theorem of_call (refused : sink.Refused refusal) (call : SinkCall) :
    (sink.call call).1.Refused refusal := by
  obtain ⟨device, bound⟩ := refused.keep (size_kept_le refused.bound call.pieces)
  rw [refused.call]
  exact ⟨device, bound⟩

end Refused

/-! ## Any calls -/

/-- What is in the buffer behind some text when some calls have been made: of every line the
pieces that found room. -/
def held (text : String) (calls : List SinkCall) : String :=
  calls.foldl (fun text call => text ++ String.join (kept text.utf8ByteSize call.pieces)) text

section Runs

variable {refusal : Refusal} {sink : JsonLines}

theorem mem_results {calls : List SinkCall} {call : SinkCall} {result : Except Error Unit} :
    (call, result) ∈ sink.results calls ↔ ∃ earlier later, calls = earlier ++ call :: later ∧
      result = ((sink.after earlier).call call).2 := by
  induction calls generalizing sink with
  | nil => simp [results]
  | cons first rest ih =>
      rw [results, List.mem_cons, Prod.mk.injEq, ih]
      constructor
      · rintro (⟨rfl, rfl⟩ | ⟨earlier, later, rfl, given⟩)
        · exact ⟨[], rest, rfl, rfl⟩
        · exact ⟨first :: earlier, later, rfl, given⟩
      · rintro ⟨earlier, later, split, given⟩
        cases earlier with
        | nil =>
            obtain ⟨rfl, rfl⟩ := List.cons.inj split
            exact .inl ⟨rfl, given⟩
        | cons other earlier =>
            obtain ⟨rfl, rfl⟩ := List.cons.inj split
            exact .inr ⟨earlier, later, rfl, given⟩

theorem Refused.after (refused : sink.Refused refusal) (calls : List SinkCall) :
    (sink.after calls).Refused refusal ∧ (sink.after calls).buffer = held sink.buffer calls ∧
      (sink.after calls).count = sink.count + (sink.results calls).countP isWritten := by
  induction calls generalizing sink with
  | nil => exact ⟨refused, rfl, rfl⟩
  | cons call rest ih =>
      obtain ⟨still, buffer, count⟩ := ih (refused.of_call call)
      have made := refused.call call
      refine ⟨still, ?_, ?_⟩
      · exact buffer.trans (congrArg (held · rest) (congrArg JsonLines.buffer made))
      · rw [results, List.countP_cons]
        refine count.trans ?_
        rw [congrArg JsonLines.count made]
        cases isWritten (call, (sink.call call).2) with
        | true => exact Nat.add_right_comm _ _ _
        | false => rfl

end Runs

/-- What calls give over a device that refuses every text, once some calls have been made.

* `counted`: as many lines are counted as writes succeeded.
* `write`: the next write succeeds if the line finds room in the buffer; if just the line end finds
  none, that is an error of output, and otherwise one of serialization.
* `flush`, `finish`: an error at the end is one of output, and there is none if nothing was held.
* `reported_iff`: all errors so far are of output exactly if every value found room. -/
structure RefusalsReported (refusal : Refusal) (calls : List SinkCall) : Prop where
  counted : ((overRefusing refusal).after calls).count =
    ((overRefusing refusal).results calls).countP isWritten
  write : ∀ value, (((overRefusing refusal).after calls).write value).2 =
    verdict refusal (held "" calls).utf8ByteSize value
  flush : ((overRefusing refusal).after calls).flush.2 =
    if held "" calls = "" ∧ refusal.flushFails = false then .ok () else .error (.io refusal.cause)
  finish : ((overRefusing refusal).after calls).finish =
    if held "" calls = "" then .ok (.refusing refusal) else .error (.io refusal.cause)
  reported_iff : (∀ call error, (call, .error error) ∈ (overRefusing refusal).results calls →
      error = .io refusal.cause) ↔
    ∀ earlier value later, calls = earlier ++ .write value :: later →
      Fit (held "" earlier).utf8ByteSize value.pieces

/-- What a device that refuses every text lets happen, after any calls. -/
theorem refused_calls (refusal : Refusal) (calls : List SinkCall) :
    RefusalsReported refusal calls := by
  have state (calls : List SinkCall) :=
    (refused_overRefusing refusal).after calls
  have written (calls : List SinkCall) (value : Json) :
      (((overRefusing refusal).after calls).write value).2 =
        verdict refusal (held "" calls).utf8ByteSize value := by
    obtain ⟨refused, buffer, _⟩ := state calls
    rw [refused.write, used, buffer]
    rfl
  obtain ⟨refused, buffer, counted⟩ := state calls
  exact {
    counted := counted.trans (Nat.zero_add _)
    write := written calls
    flush := by
      rw [refused.flush, buffer]
      rfl
    finish := by
      rw [refused.finish, buffer]
      rfl
    reported_iff := by
      constructor
      · intro reported earlier value later split
        by_contra refusedValue
        have member : (.write value, verdict refusal (held "" earlier).utf8ByteSize value) ∈
            (overRefusing refusal).results calls :=
          mem_results.mpr ⟨earlier, later, split, (written earlier value).symm⟩
        rw [verdict, if_neg refusedValue] at member
        cases reported _ _ member
      · intro fit call error member
        obtain ⟨earlier, later, split, given⟩ := mem_results.mp member
        cases call with
        | write value =>
            rw [JsonLines.call, written, verdict, if_pos (fit earlier value later split)] at given
            split at given <;> cases given
            rfl
        | flush =>
            rw [JsonLines.call, (state earlier).1.flush] at given
            split at given <;> cases given
            rfl }

/-! ## A text that fills the buffer -/

/-- The same letter so many times. -/
def letters (n : Nat) : String := String.ofList (List.replicate n 'x')

theorem size_letters (n : Nat) : (letters n).utf8ByteSize = n := by
  rw [letters, String.utf8ByteSize_ofList]
  induction n with
  | zero => rfl
  | succ n ih => rw [List.replicate_succ, String.utf8Len_cons, ih]; rfl

theorem pieces_letters (n : Nat) :
    (Json.string (letters (n + 1))).pieces = ["\"", letters (n + 1), "\""] := by
  have plain : ∀ c ∈ List.replicate (n + 1) 'x', Json.escape? c = none := by
    intro c member
    rw [List.eq_of_mem_replicate member]
    decide
  have filled : [] ++ List.replicate (n + 1) 'x' ≠ [] := List.cons_ne_nil _ _
  rw [Json.pieces, Json.stringPieces, letters, String.toList_ofList,
    Json.contentPieces_of_plain plain filled]
  rfl

theorem not_fit_letters {n : Nat} (long : capacity < n + 3) :
    ¬Fit 0 (Json.string (letters (n + 1))).pieces := by
  rintro ⟨space, _⟩
  have quote : "\"".utf8ByteSize = 1 := rfl
  rw [pieces_letters, size_join_cons, size_join_cons, size_join_cons, size_letters, quote] at space
  omega

/-- A first value that does not fit into the buffer is reported as one that cannot be written. -/
theorem results_of_not_fit {refusal : Refusal} {value : Json} (noRoom : ¬Fit 0 value.pieces) :
    (overRefusing refusal).results [.write value] =
        [(.write value, .error (.serialization refusal.cause))] ∧
      ((overRefusing refusal).after [.write value]).count = 0 := by
  have refused := (refused_overRefusing refusal).write value
  have empty : (overRefusing refusal).used = 0 := rfl
  rw [empty, verdict, if_neg noRoom] at refused
  constructor
  · simp only [results, call, refused]
  · simp only [after, List.foldl_cons, List.foldl_nil, call, refused]
    rfl

/-- With its opening quote this text fills the buffer. A closed device then refuses the closing
quote, and that is reported as an error of serialization. -/
theorem fillingText_misreported :
    (overRefusing .refused).results [.write (.string (letters 8191))] =
        [(.write (.string (letters 8191)), .error (.serialization .refused))] ∧
      ((overRefusing .refused).after [.write (.string (letters 8191))]).count = 0 :=
  results_of_not_fit (not_fit_letters (by decide))

end JsonLines

end CodeIndex
