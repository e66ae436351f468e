import OpenSpaceEgse.Ccsds.ReceiveFlow

/-!
# Polling a port

A `ScriptedPort` is a port of any behaviour: what it answers may depend on all that was
asked and answered before, and it keeps the record of that.  `polls_lossless` is about any
number of calls of `process_serial_once` on such a port, with any limits: each returns what
its own bytes complete, and the receiver ends up where it would be had it been given all bytes
at once, and has returned the same.
-/

namespace OpenSpaceEgse

/-- What happened at a port. -/
inductive PortEntry where
  | inWaiting (result : Except PyError ℤ)
  | read (size : ℤ) (result : Except PyError Bytes)

structure ScriptedPort where
  pending : List PortEntry → Except PyError ℤ
  chunk : List PortEntry → ℤ → Except PyError Bytes
  history : List PortEntry

namespace ScriptedPort

/-- The port with one more entry in its history. -/
def record (port : ScriptedPort) (entry : PortEntry) : ScriptedPort :=
  { port with history := port.history ++ [entry] }

instance : SerialLike ScriptedPort where
  inWaiting port :=
    (port.pending port.history, port.record (.inWaiting (port.pending port.history)))
  read port size :=
    (port.chunk port.history size, port.record (.read size (port.chunk port.history size)))

end ScriptedPort

/-- The bytes that the reads of a history returned. -/
def bytesRead (history : List PortEntry) : Bytes :=
  history.flatMap fun
    | .read _ (.ok chunk) => chunk
    | _ => []

/-- What one call of `process_serial_once` asks its port, and what it gets to process. -/
inductive Polled (maxReadSize : ℤ) : List PortEntry → Except PyError Bytes → Prop where
  | refused (h : maxReadSize ≤ 0) :
      Polled maxReadSize [] (.error (.valueError "max_read_size must be positive"))
  | unanswered (h : 0 < maxReadSize) (e : PyError) :
      Polled maxReadSize [.inWaiting (.error e)] (.error e)
  | idle (h : 0 < maxReadSize) (pending : ℤ) (hnone : pending ≤ 0) :
      Polled maxReadSize [.inWaiting (.ok pending)] (.ok [])
  | reads (pending size : ℤ) (result : Except PyError Bytes) (hpos : 1 ≤ size)
      (hle : size ≤ min pending maxReadSize) :
      Polled maxReadSize [.inWaiting (.ok pending), .read size result] result

lemma Polled.bytesRead_eq {maxReadSize : ℤ} {entries : List PortEntry}
    {result : Except PyError Bytes} (h : Polled maxReadSize entries result) :
    bytesRead entries = result.toOption.getD [] := by
  cases h with
  | refused => rfl
  | unanswered => rfl
  | idle => rfl
  | reads pending size result =>
      cases result with
      | error e => rfl
      | ok chunk => exact List.append_nil chunk

namespace SdlpSpacePacketReceiver

lemma polled_readOnce (port : ScriptedPort) (maxReadSize : ℤ) :
    ∃ entries, (readOnce port maxReadSize).2.history = port.history ++ entries ∧
      Polled maxReadSize entries (readOnce port maxReadSize).1 := by
  rw [readOnce]
  by_cases hmax : maxReadSize ≤ 0
  · rw [if_pos hmax]
    exact ⟨[], (List.append_nil _).symm, .refused hmax⟩
  · rw [if_neg hmax]
    simp only [SerialLike.inWaiting]
    cases hpending : port.pending port.history with
    | error e => exact ⟨_, rfl, .unanswered (Int.not_le.mp hmax) e⟩
    | ok pending =>
        by_cases hnone : pending ≤ 0
        · simp only [if_pos hnone]
          exact ⟨_, rfl, .idle (Int.not_le.mp hmax) pending hnone⟩
        · simp only [if_neg hnone]
          refine ⟨_, List.append_assoc .., .reads pending _ _ ?_ ?_⟩ <;> split <;> omega

/-- One call of `process_serial_once` after the other, with the results of all of them. -/
def pollAll {P : Type*} [SerialLike P] (self : SdlpSpacePacketReceiver) (serialPort : P) :
    List ℤ → List (Except PyError (List DecodedSpacePacket)) × SdlpSpacePacketReceiver × P
  | [] => ([], self, serialPort)
  | maxReadSize :: sizes =>
      let (result, self', serialPort') := self.processSerialOnce serialPort maxReadSize
      let (results, self'', serialPort'') := self'.pollAll serialPort' sizes
      (result :: results, self'', serialPort'')

/-- The packets that a call returned, if it returned. -/
def returned (result : Except PyError (List DecodedSpacePacket)) : List DecodedSpacePacket :=
  result.toOption.getD []

/-- What calls with these results return, one by one: the packets that the bytes of the call
complete, or its exception. -/
def outcomes (self : SdlpSpacePacketReceiver) :
    List (List PortEntry × Except PyError Bytes) → List (Except PyError (List DecodedSpacePacket))
  | [] => []
  | (entries, result) :: calls =>
      result.map self.packets :: (self.after (bytesRead entries)).outcomes calls

lemma bytesRead_cons (entries : List PortEntry) (result : Except PyError Bytes)
    (calls : List (List PortEntry × Except PyError Bytes)) :
    bytesRead (((entries, result) :: calls).flatMap Prod.fst) =
      bytesRead entries ++ bytesRead (calls.flatMap Prod.fst) :=
  List.flatMap_append

lemma returned_map {maxReadSize : ℤ} {entries : List PortEntry} {result : Except PyError Bytes}
    (self : SdlpSpacePacketReceiver) (h : Polled maxReadSize entries result) :
    returned (result.map self.packets) = self.packets (bytesRead entries) := by
  have hread := h.bytesRead_eq
  cases result with
  | error e =>
      rw [hread]
      rfl
  | ok chunk =>
      rw [hread]
      rfl

/-- Together the calls return the packets of all bytes that they read. -/
lemma returned_outcomes {sizes : List ℤ} {calls : List (List PortEntry × Except PyError Bytes)}
    (h : List.Forall₂ (fun maxReadSize call => Polled maxReadSize call.1 call.2) sizes calls)
    (self : SdlpSpacePacketReceiver) :
    (self.outcomes calls).flatMap returned =
      self.packets (bytesRead (calls.flatMap Prod.fst)) := by
  induction h generalizing self with
  | nil => rfl
  | @cons maxReadSize call sizes calls hpolled hrest ih =>
      obtain ⟨entries, result⟩ := call
      rw [outcomes, List.flatMap_cons, self.returned_map hpolled, ih, bytesRead_cons,
        packets_append]

/-- One call: what it asks the port, and what becomes of the bytes that it reads. -/
lemma polled_processSerialOnce (self : SdlpSpacePacketReceiver) (port : ScriptedPort)
    (maxReadSize : ℤ) :
    ∃ entries result,
      (self.processSerialOnce port maxReadSize).2.2.history = port.history ++ entries ∧
      Polled maxReadSize entries result ∧
      (self.processSerialOnce port maxReadSize).1 = result.map self.packets ∧
      (self.processSerialOnce port maxReadSize).2.1 = self.after (bytesRead entries) := by
  obtain ⟨entries, hhistory, hpolled⟩ := polled_readOnce port maxReadSize
  rw [processSerialOnce_eq]
  generalize readOnce port maxReadSize = read at *
  have hbytes := hpolled.bytesRead_eq
  obtain ⟨e | chunk, port'⟩ := read
  · refine ⟨entries, .error e, hhistory, hpolled, rfl, ?_⟩
    rw [hbytes]
    rfl
  · refine ⟨entries, .ok chunk, hhistory, hpolled, rfl, ?_⟩
    rw [hbytes]
    rfl

/-- **Polling loses and repeats nothing.**  Each call returns the packets that the bytes of its
own read complete, or the exception that it met; together the calls return what processing all
bytes that were read returns, and leave the receiver in the same state.  A read asks for at
least one byte, and for no more than wait and than the limit; and a call that raises, for
its limit or with its port, leaves the receiver as it was. -/
theorem polls_lossless (self : SdlpSpacePacketReceiver) (port : ScriptedPort) (sizes : List ℤ) :
    (∃ calls : List (List PortEntry × Except PyError Bytes),
      (self.pollAll port sizes).2.2.history = port.history ++ calls.flatMap Prod.fst ∧
      List.Forall₂ (fun maxReadSize call => Polled maxReadSize call.1 call.2) sizes calls ∧
      (self.pollAll port sizes).1 = self.outcomes calls ∧
      self.processUartBytes (bytesRead (calls.flatMap Prod.fst)) =
        (.ok ((self.pollAll port sizes).1.flatMap returned), (self.pollAll port sizes).2.1)) ∧
    ∀ maxReadSize e, (self.processSerialOnce port maxReadSize).1 = .error e →
      (self.processSerialOnce port maxReadSize).2.1 = self ∧
      ∃ entries, (self.processSerialOnce port maxReadSize).2.2.history = port.history ++ entries ∧
        Polled maxReadSize entries (.error e) := by
  constructor
  · -- every call goes on from the receiver and the port that the earlier ones left
    induction sizes generalizing self port with
    | nil => exact ⟨[], (List.append_nil _).symm, .nil, rfl, rfl⟩
    | cons maxReadSize sizes ih =>
        obtain ⟨entries, result, hhistory, hpolled, hreturned, hself⟩ :=
          self.polled_processSerialOnce port maxReadSize
        rw [pollAll]
        rcases hcall : self.processSerialOnce port maxReadSize with ⟨outcome, self', port'⟩
        rw [hcall] at hhistory hreturned hself
        simp only at hhistory hreturned hself
        subst hreturned hself
        obtain ⟨calls, hhistory', hcalls, houtcomes, hbytes⟩ :=
          ih (self.after (bytesRead entries)) port'
        rw [processUartBytes_eq, Prod.mk.injEq, Except.ok.injEq] at hbytes
        refine ⟨(entries, result) :: calls, ?_, .cons hpolled hcalls, ?_, ?_⟩
        · rw [List.flatMap_cons, ← List.append_assoc, ← hhistory]
          exact hhistory'
        · exact congrArg _ houtcomes
        · rw [processUartBytes_eq, bytesRead_cons, packets_append, after_append]
          simp only [List.flatMap_cons, self.returned_map hpolled, ← hbytes.1, hbytes.2]
  · intro maxReadSize e h
    obtain ⟨entries, result, hhistory, hpolled, hreturned, hself⟩ :=
      self.polled_processSerialOnce port maxReadSize
    rw [h] at hreturned
    -- a call that raises has read nothing
    cases result with
    | ok chunk => exact absurd hreturned (by simp [Except.map])
    | error e' =>
        cases hreturned
        have hread := hpolled.bytesRead_eq
        refine ⟨?_, entries, hhistory, hpolled⟩
        rw [hself, hread]
        rfl

end SdlpSpacePacketReceiver

end OpenSpaceEgse
