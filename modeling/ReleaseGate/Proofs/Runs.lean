import ReleaseGate.Proofs.Utf8
import ReleaseGate.Report
import ReleaseGate.Run

/-!
# Runs, step by step

A run is a function from a world to a result and the world it leaves. Each step of a run has one
equation here, and later proofs go by these equations alone. Writing lines one by one comes to the
same as writing the block they make, whatever the sink takes of it.
-/

namespace ReleaseGate

/-! ## Sinks -/

namespace Sink

/-- The sink with more bytes written to it. -/
def took (s : Sink) (bytes : List UInt8) : Sink :=
  { s with written := s.written ++ bytes }

@[simp] theorem took_nil (s : Sink) : s.took [] = s := by
  rw [took, List.append_nil]

@[simp] theorem took_took (s : Sink) (a b : List UInt8) : (s.took a).took b = s.took (a ++ b) := by
  rw [took, took, took, List.append_assoc]

@[simp] theorem took_written (s : Sink) (bytes : List UInt8) :
    (s.took bytes).written = s.written ++ bytes := rfl

@[simp] theorem took_limit (s : Sink) (bytes : List UInt8) : (s.took bytes).limit = s.limit := rfl

/-- Writing is taking the bytes that there is room for. -/
theorem write_eq (s : Sink) (text : String) :
    s.write text = (s.took ((Text.encode text).take (s.room (Text.encode text).length)),
      s.room (Text.encode text).length == (Text.encode text).length) := rfl

/-- A sink without a limit takes every text. -/
theorem write_of_no_limit {s : Sink} (h : s.limit = none) (text : String) :
    s.write text = (s.took (Text.encode text), true) := by
  have hroom : s.room (Text.encode text).length = (Text.encode text).length := by
    rw [room, h]
  rw [write_eq, hroom, List.take_length, beq_self_eq_true]

/-- A sink with a limit takes what fits of a text. -/
theorem write_of_limit {s : Sink} {k : Nat} (h : s.limit = some k) (text : String) :
    s.write text = (s.took ((Text.encode text).take (k - s.written.length)),
      decide ((Text.encode text).length ≤ k - s.written.length)) := by
  have hroom : s.room (Text.encode text).length
      = min (k - s.written.length) (Text.encode text).length := by
    rw [room, h]
    exact Nat.min_comm _ _
  have hall : (min (k - s.written.length) (Text.encode text).length == (Text.encode text).length)
      = decide ((Text.encode text).length ≤ k - s.written.length) := by
    rw [Bool.eq_iff_iff, beq_iff_eq, decide_eq_true_iff]
    omega
  rw [write_eq, hroom, ← List.take_eq_take_min, hall]

@[simp] theorem write_empty (s : Sink) : s.write "" = (s, true) := by
  have hroom : s.room 0 = 0 := by
    rw [room]
    cases s.limit with
    | none => rfl
    | some k => exact Nat.zero_min _
  rw [write_eq, Text.encode_empty, List.length_nil, hroom, List.take_nil, took_nil]
  rfl

/-- Two texts one behind the other: the second is tried only when the first is taken whole. -/
theorem write_append (s : Sink) (a b : String) :
    s.write (a ++ b) = if (s.write a).2 then (s.write a).1.write b else ((s.write a).1, false) := by
  cases hl : s.limit with
  | none =>
      rw [write_of_no_limit hl, write_of_no_limit hl, if_pos rfl]
      show _ = (s.took (Text.encode a)).write b
      rw [write_of_no_limit (by exact hl), took_took, Text.encode_append]
  | some k =>
      rw [write_of_limit hl, write_of_limit hl, Text.encode_append]
      by_cases hfit : (Text.encode a).length ≤ k - s.written.length
      · rw [decide_eq_true hfit, if_pos rfl]
        show _ = (s.took ((Text.encode a).take (k - s.written.length))).write b
        rw [write_of_limit (by exact hl), took_took, took_written, List.take_append,
          List.take_of_length_le hfit, List.length_append, List.length_append, Nat.sub_sub]
        refine congrArg (Prod.mk _) ?_
        rw [decide_eq_decide]
        omega
      · rw [decide_eq_false hfit, if_neg Bool.false_ne_true, List.take_append, List.length_append]
        have hrest : k - s.written.length - (Text.encode a).length = 0 := by omega
        rw [hrest, List.take_zero, List.append_nil]
        refine congrArg (Prod.mk _) ?_
        rw [decide_eq_false_iff_not]
        omega

/-- The sink has room for a whole text. -/
def Takes (s : Sink) (text : String) : Prop :=
  s.write text = (s.took (Text.encode text), true)

theorem takes_of_no_limit {s : Sink} (h : s.limit = none) (text : String) : s.Takes text :=
  write_of_no_limit h text

theorem takes_of_limit {s : Sink} {k : Nat} {text : String}
    (h : s.limit = some (s.written.length + k)) (hfit : (Text.encode text).length ≤ k) :
    s.Takes text := by
  have hroom : s.written.length + k - s.written.length = k := Nat.add_sub_cancel_left ..
  rw [Takes, write_of_limit h, hroom, List.take_of_length_le hfit, decide_eq_true hfit]

/-- Of a text that does not fit, the sink takes the beginning. -/
theorem write_of_cut {s : Sink} {k : Nat} {text : String}
    (h : s.limit = some (s.written.length + k)) (hcut : k < (Text.encode text).length) :
    s.write text = (s.took ((Text.encode text).take k), false) := by
  have hroom : s.written.length + k - s.written.length = k := Nat.add_sub_cancel_left ..
  rw [write_of_limit h, hroom, decide_eq_false (Nat.not_le.mpr hcut)]

theorem takes_iff (s : Sink) (text : String) : s.Takes text ↔ (s.write text).2 = true := by
  constructor
  · intro h
    rw [h]
  · intro h
    rw [write_eq, beq_iff_eq] at h
    rw [Takes, write_eq, h, List.take_length, beq_self_eq_true]

/-- Two texts are taken as one just when each is taken in its turn. -/
theorem takes_append (s : Sink) (a b : String) :
    s.Takes (a ++ b) ↔ s.Takes a ∧ (s.took (Text.encode a)).Takes b := by
  rw [takes_iff s (a ++ b), write_append]
  by_cases ha : (s.write a).2 = true
  · have htakes := (takes_iff s a).mpr ha
    rw [if_pos ha, htakes, takes_iff (s.took (Text.encode a))]
    exact ⟨fun h => ⟨htakes, h⟩, And.right⟩
  · rw [if_neg ha]
    exact ⟨fun h => (nomatch h), fun h => absurd ((takes_iff s a).mp h.1) ha⟩

end Sink

/-! ## Worlds -/

namespace World

/-- The world with more events. -/
def noted (w : World) (events : List Event) : World :=
  { w with events := w.events ++ events }

/-- The world with more of the report written. -/
def wrote (w : World) (text : String) : World :=
  { w with sink := w.sink.took (Text.encode text) }

@[simp] theorem noted_noted (w : World) (a b : List Event) :
    (w.noted a).noted b = w.noted (a ++ b) := by
  rw [noted, noted, noted, List.append_assoc]

end World

/-! ## Steps -/

namespace Run

variable {α β : Type}

/-- What a run comes to in a world: its result, and the world it leaves. -/
def exec (m : Run α) (w : World) : Except Failure α × World :=
  m.run w

@[simp] theorem exec_pure (a : α) (w : World) : (pure a : Run α).exec w = (.ok a, w) := rfl

@[simp] theorem exec_throw (f : Failure) (w : World) :
    (throw f : Run α).exec w = (.error f, w) := rfl

@[simp] theorem exec_get (w : World) : (get : Run World).exec w = (.ok w, w) := rfl

@[simp] theorem exec_set (w' w : World) : (set w' : Run PUnit).exec w = (.ok ⟨⟩, w') := rfl

/-- A run that goes on behind another one. -/
theorem exec_bind (m : Run α) (next : α → Run β) (w : World) :
    (m >>= next).exec w = match m.exec w with
      | (.ok a, w') => (next a).exec w'
      | (.error f, w') => (.error f, w') := by
  show ExceptT.bindCont next (m.exec w).1 (m.exec w).2 = _
  cases m.exec w with
  | mk r w' =>
      cases r with
      | ok a => rfl
      | error f => rfl

/-- A run goes on from the world that its first part leaves. -/
theorem exec_bind_ok {m : Run α} {next : α → Run β} {w w' : World} {a : α}
    (h : m.exec w = (.ok a, w')) : (m >>= next).exec w = (next a).exec w' := by
  rw [exec_bind, h]

/-- A run ends where its first part fails. -/
theorem exec_bind_error {m : Run α} {next : α → Run β} {w w' : World} {f : Failure}
    (h : m.exec w = (.error f, w')) : (m >>= next).exec w = (.error f, w') := by
  rw [exec_bind, h]

/-- A run that comes to a value has come to one in its first part. -/
theorem exec_bind_eq_ok {m : Run α} {next : α → Run β} {w : World} {b : β}
    (h : ((m >>= next).exec w).1 = .ok b) :
    ∃ a w', m.exec w = (.ok a, w') ∧ ((next a).exec w').1 = .ok b := by
  cases hm : m.exec w with
  | mk r w' =>
      cases r with
      | error f =>
          rw [exec_bind_error hm] at h
          cases h
      | ok a =>
          rw [exec_bind_ok hm] at h
          exact ⟨a, w', rfl, h⟩

@[simp] theorem exec_note (events : List Event) (w : World) :
    (note events).exec w = (.ok (), w.noted events) := rfl

@[simp] theorem exec_ofExcept (r : Except Failure α) (w : World) :
    (ofExcept r : Run α).exec w = (r, w) := by
  cases r with
  | ok a => rfl
  | error f => rfl

@[simp] theorem exec_recorded (r : List Event × Except Failure α) (w : World) :
    (recorded r).exec w = (r.2, w.noted r.1) := by
  rw [recorded, exec_bind_ok (exec_note r.1 w), exec_ofExcept]

/-- Writing a piece of the report. -/
theorem exec_write (text : String) (w : World) :
    (write text).exec w = (if (w.sink.write text).2 then .ok () else .error (.io Sink.limitReason),
      { w with sink := (w.sink.write text).1 }) := by
  show exec (if (w.sink.write text).2 then pure () else throw (.io Sink.limitReason))
    { w with sink := (w.sink.write text).1 } = _
  by_cases h : (w.sink.write text).2 = true
  · rw [if_pos h, if_pos h]
    rfl
  · rw [if_neg h, if_neg h]
    rfl

/-- Writing a piece that there is room for. -/
theorem exec_write_of_takes {text : String} {w : World} (h : w.sink.Takes text) :
    (write text).exec w = (.ok (), w.wrote text) := by
  rw [exec_write, h]
  rfl

/-- Writing a piece that is cut. -/
theorem exec_write_of_cut {k : Nat} {text : String} {w : World}
    (h : w.sink.limit = some (w.sink.written.length + k)) (hcut : k < (Text.encode text).length) :
    (write text).exec w = (.error (.io Sink.limitReason),
      { w with sink := w.sink.took ((Text.encode text).take k) }) := by
  rw [exec_write, Sink.write_of_cut h hcut]
  rfl

@[simp] theorem exec_flush (w : World) :
    flush.exec w
      = (if w.sink.flushFails then .error (.io Sink.flushReason) else .ok (), w) := by
  show exec (if w.sink.flushFails then throw (.io Sink.flushReason) else pure ()) w = _
  by_cases h : w.sink.flushFails = true
  · rw [if_pos h, if_pos h]
    rfl
  · rw [if_neg h, if_neg h]
    rfl

/-- Writing two pieces comes to writing both as one. -/
theorem exec_write_write (a b : String) (w : World) :
    (write a >>= fun _ => write b).exec w = (write (a ++ b)).exec w := by
  rw [exec_bind, exec_write, exec_write, Sink.write_append]
  by_cases h : (w.sink.write a).2 = true
  · rw [if_pos h, if_pos h]
    show (write b).exec _ = _
    rw [exec_write]
  · rw [if_neg h, if_neg h, if_neg Bool.false_ne_true]

theorem ofLines_cons (line : String) (lines : List String) :
    Report.ofLines (line :: lines) = (line ++ "\n") ++ Report.ofLines lines := by
  rw [Report.ofLines, Report.ofLines, List.map_cons, String.join_cons]

/-- Writing lines one by one comes to writing the block they make. -/
theorem exec_writeLines (lines : List String) :
    ∀ w : World, (writeLines lines).exec w = (write (Report.ofLines lines)).exec w := by
  induction lines with
  | nil =>
      intro w
      rw [exec_write]
      show (writeLines []).exec w = (if (w.sink.write "").2 then _ else _,
        { w with sink := (w.sink.write "").1 })
      rw [Sink.write_empty]
      rfl
  | cons line lines ih =>
      intro w
      rw [ofLines_cons, ← exec_write_write, writeLines, exec_bind, exec_bind]
      cases (write (line ++ "\n")).exec w with
      | mk r w' =>
          cases r with
          | ok a => exact ih w'
          | error f => rfl

end Run

end ReleaseGate
