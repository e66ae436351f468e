import OpenSpaceEgse.Ccsds.Delivery

/-!
# Incomplete writes

The port may now transmit only a part of what it is given, and says how much.  Then
`send` raises, the counters stay, and the command should never arrive.

It does arrive when just the closing `END` is missing and a later write transmits at
least its opening `END`, which closes the frame.  `delivered_le_returned_iff` says that
this is the only way: the receiver decodes no more packets than sends returned, after
every send of a run, if and only if no write short of exactly one byte is followed by a
write that transmits anything.
-/

namespace OpenSpaceEgse

open Wire

/-- A port that transmits the first `cut n` bytes of its `n`-th write, or all of them
if there are fewer, and keeps a log of its writes. -/
structure CutPort where
  cut : ℕ → ℕ
  writes : List (Bytes × ℕ)

namespace CutPort

instance : SerialWriteLike CutPort where
  write port data :=
    let k := min (port.cut port.writes.length) data.length
    (.ok (some k), { port with writes := port.writes ++ [(data, k)] })

/-- What is on the wire after some writes. -/
def transmitted (writes : List (Bytes × ℕ)) : Bytes := writes.flatMap fun w => w.1.take w.2

@[simp] lemma transmitted_nil : transmitted [] = [] := rfl

@[simp] lemma transmitted_cons (w : Bytes × ℕ) (writes : List (Bytes × ℕ)) :
    transmitted (w :: writes) = w.1.take w.2 ++ transmitted writes := by
  simp [transmitted]

/-- A write was complete. -/
def Complete (w : Bytes × ℕ) : Prop := w.2 = w.1.length

instance (w : Bytes × ℕ) : Decidable (Complete w) := inferInstanceAs (Decidable (_ = _))

/-- Just the last byte of the first write is missing, and the second write transmits
something. -/
def Completes (a b : Bytes × ℕ) : Prop := a.2 + 1 = a.1.length ∧ b.2 ≠ 0

instance (a b : Bytes × ℕ) : Decidable (Completes a b) := inferInstanceAs (Decidable (_ ∧ _))

/-! ## Counting completions -/

/-- The number of frames that a later write completes; `pending` says that all but the
closing byte of a frame was the last thing transmitted. -/
def completions : Bool → List (Bytes × ℕ) → ℕ
  | _, [] => 0
  | pending, w :: writes =>
      if w.2 = 0 then completions pending writes
      else pending.toNat + completions (decide (w.2 + 1 = w.1.length)) writes

/-- No completion takes place if and only if no write completes an earlier one. -/
lemma completions_eq_zero {writes : List (Bytes × ℕ)} (h : ∀ w ∈ writes, 2 ≤ w.1.length)
    (pending : Bool) :
    completions pending writes = 0 ↔
      (pending = true → ∀ w ∈ writes, w.2 = 0) ∧ writes.Pairwise fun a b => ¬ Completes a b := by
  induction writes generalizing pending with
  | nil => simp [completions]
  | cons w writes ih =>
      have hw : 2 ≤ w.1.length := h w (by simp)
      have hrest := ih fun v hv => h v (by simp [hv])
      rw [completions, List.pairwise_cons]
      by_cases hzero : w.2 = 0
      · -- nothing was transmitted: `w` completes nothing and is not completed
        have hnone : ∀ b ∈ writes, ¬ Completes w b := by
          rintro b - ⟨hlast, -⟩
          omega
        rw [if_pos hzero, hrest]
        simp only [List.forall_mem_cons, hzero, true_and]
        exact ⟨fun ⟨hp, hpair⟩ => ⟨hp, hnone, hpair⟩, fun ⟨hp, _, hpair⟩ => ⟨hp, hpair⟩⟩
      · have hcomplete : (decide (w.2 + 1 = w.1.length) = true → ∀ v ∈ writes, v.2 = 0) ↔
            ∀ b ∈ writes, ¬ Completes w b := by
          simp only [decide_eq_true_eq, Completes, not_and, not_not]
          exact ⟨fun hc b hb hlast => hc hlast b hb, fun hc hlast b hb => hc b hb hlast⟩
        rw [if_neg hzero, Nat.add_eq_zero_iff, hrest, hcomplete]
        simp only [List.forall_mem_cons, hzero, false_and]
        cases pending <;> simp

/-! ## What the receiver makes of truncated frames -/

/-- A write of a frame around one packet. -/
def Carries (w : Bytes × ℕ) : Prop :=
  ∃ (frame : TcTransferFrame) (p : SpacePacket),
    w.1 = slipEncode (SdlpFrame.tc frame).envelope ∧ frame.dataField = p.encode ∧
      w.2 ≤ w.1.length

/-- A truncated segment of a frame yields nothing unless it is the whole segment. -/
lemma decode_take {f : SdlpFrame} (h : f.encode.length ≤ 0xFFFF) (j : ℕ) :
    sdlpFramer.decode ((slip.stuff f.envelope).take j) =
      if (slip.stuff f.envelope).length ≤ j then some f.parsed else none := by
  by_cases hj : (slip.stuff f.envelope).length ≤ j
  · rw [if_pos hj, List.take_of_length_le hj]
    exact (Unstuffer.decode_stuff slip decodeEnvelope _).trans (f.decodeEnvelope_envelope h)
  · rw [if_neg hj]
    obtain ⟨i, hi, hlt⟩ := slip.unstuff_prefix f.envelope _ (List.take_prefix j _)
    have hne : (slip.stuff f.envelope).take j ≠ slip.stuff f.envelope := by
      intro heq
      have hlen := congrArg List.length heq
      rw [List.length_take] at hlen
      omega
    rw [SdlpUartStreamParser.decode_piece, hi, Option.bind_some, f.decodeEnvelope_take h (hlt hne)]

/-- One truncated frame: what it makes the parser emit, and what closing the piece
behind it would yield. -/
lemma out_take {f : SdlpFrame} (h : f.encode.length ≤ 0xFFFF) (s : Unstuffer UInt8) {k : ℕ}
    (hk : k ≤ (slipEncode f.envelope).length) :
    sdlpFramer.out s ((slipEncode f.envelope).take k) =
        (if k = 0 then [] else (sdlpFramer.close s).toList ++
          if k = (slipEncode f.envelope).length then [f.parsed] else []) ∧
      sdlpFramer.close (sdlpFramer.run s ((slipEncode f.envelope).take k)) =
        if k = 0 then sdlpFramer.close s
        else if k + 1 = (slipEncode f.envelope).length then some f.parsed else none := by
  have hnot : sdlpFramer.delim ∉ slip.stuff f.envelope := slip.delim_notMem_stuff _
  have hlen : (slipEncode f.envelope).length = (slip.stuff f.envelope).length + 2 := by
    simp [slipEncode_eq]
  rw [hlen] at hk ⊢
  have hdecode := decode_take h
  generalize hw : slip.stuff f.envelope = w at *
  have hdata : slipEncode f.envelope = sdlpFramer.delim :: (w ++ [sdlpFramer.delim]) := by
    rw [slipEncode_eq, hw]
    rfl
  rcases k with _ | j
  · exact ⟨rfl, rfl⟩
  · rw [hdata, List.take_succ_cons]
    by_cases hj : j ≤ w.length
    · -- the closing delimiter is missing
      have hpre : (w ++ [sdlpFramer.delim]).take j = w.take j :=
        List.take_append_of_le_length hj
      have hnot' : sdlpFramer.delim ∉ w.take j := fun hc => hnot (List.mem_of_mem_take hc)
      have hrun : sdlpFramer.run s (sdlpFramer.delim :: w.take j) =
          sdlpFramer.inside sdlpFramer.start (w.take j) := by
        rw [Framer.run_cons, Framer.next_delim, sdlpFramer.run_of_not_mem hnot']
      have hclose : sdlpFramer.close (sdlpFramer.inside sdlpFramer.start (w.take j)) =
          if w.length ≤ j then some f.parsed else none := hdecode j
      have hlast : (j + 1 + 1 = w.length + 2) = (w.length ≤ j) := propext ⟨by omega, by omega⟩
      rw [hpre]
      constructor
      · rw [Framer.out_cons, Framer.emit_delim, Framer.next_delim,
          sdlpFramer.out_of_not_mem hnot', if_neg (by omega), if_neg (by omega)]
      · rw [hrun, hclose, if_neg (show ¬ j + 1 = 0 by omega)]
        simp only [hlast]
    · -- the frame was transmitted whole
      have hfull : j = w.length + 1 := by omega
      subst hfull
      have hwhole : (w ++ [sdlpFramer.delim]).take (w.length + 1) = w ++ [sdlpFramer.delim] :=
        List.take_of_length_le (by simp)
      have hself := hdecode w.length
      rw [List.take_length, if_pos (Nat.le_refl _)] at hself
      have hout := sdlpFramer.out_delimited hnot s []
      rw [hself, List.cons_append] at hout
      rw [hwhole, hout, ← List.cons_append, Framer.run_concat_delim, if_neg (by omega),
        if_pos rfl, if_neg (by omega), if_neg (by omega)]
      exact ⟨rfl, rfl⟩

/-- The packets behind truncated frames: one for each complete write, and one for each
completion. -/
lemma length_packets_transmitted {writes : List (Bytes × ℕ)} (h : ∀ w ∈ writes, Carries w)
    (s : Unstuffer UInt8) (pending : Bool)
    (hs : ((sdlpFramer.close s).toList.flatMap
      SdlpSpacePacketReceiver.packetsOfFrame).length = pending.toNat) :
    ((sdlpFramer.out s (transmitted writes)).flatMap
        SdlpSpacePacketReceiver.packetsOfFrame).length =
      writes.countP (fun w => decide (Complete w)) + completions pending writes := by
  induction writes generalizing s pending with
  | nil => rfl
  | cons w writes ih =>
      obtain ⟨frame, p, hdata, hpacket, hk⟩ := h w (by simp)
      obtain ⟨data, k⟩ := w
      simp only at hdata hk
      subst hdata
      have hone :
          (SdlpSpacePacketReceiver.packetsOfFrame (SdlpFrame.tc frame).parsed).length = 1 := by
        rw [SdlpSpacePacketReceiver.packetsOfFrame_tc hpacket]
        rfl
      obtain ⟨hout, hclose⟩ := out_take (SdlpFrame.length_encode_tc frame) s hk
      have hrest : ∀ v ∈ writes, Carries v := fun v hv => h v (by simp [hv])
      have hlen : (slipEncode (SdlpFrame.tc frame).envelope).length ≠ 0 := by simp [slipEncode_eq]
      rw [transmitted_cons, Framer.out_append, List.flatMap_append, List.length_append, hout,
        completions, List.countP_cons]
      by_cases hzero : k = 0
      · -- nothing was transmitted
        have hpartial : ¬ Complete (slipEncode (SdlpFrame.tc frame).envelope, k) := by
          intro hc
          exact hlen (hc.symm.trans hzero)
        rw [if_pos hzero] at hclose
        rw [ih hrest _ pending (by rw [hclose]; exact hs), decide_eq_false hpartial]
        simp only [hzero, if_true, Bool.false_eq_true, if_false, List.flatMap_nil,
          List.length_nil]
        omega
      · -- the opening `END` closes what was pending, and `w` is pending from here on
        rw [if_neg hzero] at hclose
        have hpending : ((sdlpFramer.close (sdlpFramer.run s ((slipEncode
            (SdlpFrame.tc frame).envelope).take k))).toList.flatMap
              SdlpSpacePacketReceiver.packetsOfFrame).length =
            (decide (k + 1 = (slipEncode (SdlpFrame.tc frame).envelope).length)).toNat := by
          rw [hclose]
          split
          · rename_i hlast
            rw [Option.toList_some, List.flatMap_singleton, hone, decide_eq_true hlast]
            rfl
          · rename_i hlast
            rw [decide_eq_false hlast]
            rfl
        rw [ih hrest _ _ hpending, if_neg hzero, if_neg hzero, List.flatMap_append,
          List.length_append, hs]
        by_cases hfull : k = (slipEncode (SdlpFrame.tc frame).envelope).length
        · have hc : Complete (slipEncode (SdlpFrame.tc frame).envelope, k) := hfull
          rw [if_pos hfull, List.flatMap_singleton, hone, decide_eq_true hc, if_pos rfl]
          dsimp only
          omega
        · have hc : ¬ Complete (slipEncode (SdlpFrame.tc frame).envelope, k) := hfull
          rw [if_neg hfull, decide_eq_false hc]
          simp only [List.flatMap_nil, List.length_nil, Bool.false_eq_true, if_false]
          omega

end CutPort

namespace TcCommandSender

open CutPort

/-- One send on such a port: refused before the write, or a write, after which it
returns if and only if the write was complete. -/
lemma send_cut (self : TcCommandSender CutPort) (command : TcCommandArg) (parameter : Option ℤ) :
    (∃ e, self.send command parameter = (.error e, self)) ∨
    ∃ w self', Carries w ∧ self'.serialPort.writes = self.serialPort.writes ++ [w] ∧
      ((∃ e, self.send command parameter = (.error e, self') ∧ ¬ Complete w) ∨
        ∃ sent, self.send command parameter = (.ok sent, self') ∧ Complete w) := by
  rcases self.send_cases command parameter with ⟨e, -, hsend⟩ | ⟨c, hprep, hcase⟩
  · exact Or.inl ⟨e, hsend⟩
  · have hfor := prepare_eq_ok hprep
    generalize hk : min (self.serialPort.cut self.serialPort.writes.length) c.uartBytes.length = k
    have hwrite : SerialWriteLike.write self.serialPort c.uartBytes =
        (.ok (some (k : ℤ)), { self.serialPort with
          writes := self.serialPort.writes ++ [(c.uartBytes, k)] }) := by
      rw [← hk]
      rfl
    have hcarries : Carries (c.uartBytes, k) :=
      ⟨c.tcTransferFrame, c.spacePacket, hfor.uartBytes_eq, hfor.frameData_eq,
        hk ▸ Nat.min_le_right _ _⟩
    rw [hwrite] at hcase
    rcases hcase with ⟨e, hsend, hne⟩ | ⟨hsend, n, hn, hlen⟩
    · refine Or.inr ⟨_, _, hcarries, ?_, Or.inl ⟨e, hsend, ?_⟩⟩
      · rfl
      · intro hc
        exact hne _ rfl (congrArg Int.ofNat hc)
    · cases hn
      exact Or.inr ⟨_, _, hcarries, rfl, Or.inr ⟨_, hsend, Int.ofNat.inj hlen⟩⟩

/-- A run appends its writes to the log; the sends that returned are the complete
ones. -/
lemma sendAll_cut (self : TcCommandSender CutPort) (calls : List (TcCommandArg × Option ℤ)) :
    ∃ writes, (self.sendAll calls).2.serialPort.writes = self.serialPort.writes ++ writes ∧
      (∀ w ∈ writes, Carries w) ∧
      (accepted calls (self.sendAll calls).1).length =
        writes.countP fun w => decide (Complete w) := by
  induction calls generalizing self with
  | nil => exact ⟨[], (List.append_nil _).symm, by simp, rfl⟩
  | cons call calls ih =>
      obtain ⟨command, parameter⟩ := call
      rcases self.send_cut command parameter with
        ⟨e, hsend⟩ | ⟨w, self', hw, hlog, ⟨e, hsend, hpartial⟩ | ⟨sent, hsend, hcomplete⟩⟩
      · -- refused before the write
        simp only [sendAll, hsend, accepted_cons_error]
        exact ih self
      · obtain ⟨writes, hwrites, hcarries, hcount⟩ := ih self'
        simp only [sendAll, hsend, accepted_cons_error]
        refine ⟨w :: writes, ?_, ?_, ?_⟩
        · rw [hwrites, hlog, List.append_assoc, List.singleton_append]
        · exact List.forall_mem_cons.mpr ⟨hw, hcarries⟩
        · rw [List.countP_cons, decide_eq_false hpartial, hcount]
          rfl
      · obtain ⟨writes, hwrites, hcarries, hcount⟩ := ih self'
        simp only [sendAll, hsend, accepted_cons_ok]
        refine ⟨w :: writes, ?_, ?_, ?_⟩
        · rw [hwrites, hlog, List.append_assoc, List.singleton_append]
        · exact List.forall_mem_cons.mpr ⟨hw, hcarries⟩
        · rw [List.countP_cons, decide_eq_true hcomplete, List.length_cons, hcount]
          rfl

lemma sendAll_append (self : TcCommandSender CutPort)
    (calls calls' : List (TcCommandArg × Option ℤ)) :
    (self.sendAll (calls ++ calls')).2 = ((self.sendAll calls).2.sendAll calls').2 := by
  induction calls generalizing self with
  | nil => rfl
  | cons call calls ih => exact ih (self.send call.1 call.2).2

end TcCommandSender

/-- **When a failed telecommand is delivered.**  Fed what was transmitted, in whatever
chunks, the receiver has decoded no more packets than sends returned, after every send
of a run, if and only if no write of the run that fell short of exactly its last byte is
followed by a write that transmitted something. -/
theorem delivered_le_returned_iff {cut : ℕ → ℕ} {config : TcSendConfig} {p₀ f₀ : ℤ}
    {self : TcCommandSender CutPort}
    (hnew : TcCommandSender.new ⟨cut, []⟩ config p₀ f₀ = .ok self)
    (calls : List (TcCommandArg × Option ℤ)) :
    (∀ m, ∀ chunks : List Bytes, chunks.flatten =
        CutPort.transmitted (self.sendAll (calls.take m)).2.serialPort.writes →
      ∃ decoded, (SdlpSpacePacketReceiver.init.processChunks chunks).1 = .ok decoded ∧
        decoded.length ≤
          (TcCommandSender.accepted (calls.take m) (self.sendAll (calls.take m)).1).length) ↔
      (self.sendAll calls).2.serialPort.writes.Pairwise
        fun a b => ¬ CutPort.Completes a b := by
  obtain ⟨hserial, -, -, -⟩ := TcCommandSender.new_eq_ok hnew
  have hempty : self.serialPort.writes = [] := by rw [hserial]
  have hrun : ∀ calls' : List (TcCommandArg × Option ℤ),
      (∀ w ∈ (self.sendAll calls').2.serialPort.writes, CutPort.Carries w) ∧
      (SdlpSpacePacketReceiver.init.packets
          (CutPort.transmitted (self.sendAll calls').2.serialPort.writes)).length =
        (TcCommandSender.accepted calls' (self.sendAll calls').1).length +
          CutPort.completions false (self.sendAll calls').2.serialPort.writes := by
    intro calls'
    obtain ⟨writes, hwrites, hcarries, hcount⟩ := self.sendAll_cut calls'
    rw [hempty, List.nil_append] at hwrites
    rw [hwrites, hcount, SdlpSpacePacketReceiver.packets_eq]
    exact ⟨hcarries, CutPort.length_packets_transmitted hcarries _ false rfl⟩
  have hzero : ∀ calls' : List (TcCommandArg × Option ℤ),
      CutPort.completions false (self.sendAll calls').2.serialPort.writes = 0 ↔
        (self.sendAll calls').2.serialPort.writes.Pairwise
          fun a b => ¬ CutPort.Completes a b := by
    intro calls'
    have htwo : ∀ w ∈ (self.sendAll calls').2.serialPort.writes, 2 ≤ w.1.length := by
      intro w hw
      obtain ⟨frame, p, hdata, -, -⟩ := (hrun calls').1 w hw
      rw [hdata]
      simp [slipEncode_eq]
    exact (CutPort.completions_eq_zero htwo false).trans (by simp)
  constructor
  · -- after the last send there is one packet more for each completion
    intro h
    obtain ⟨decoded, hdecoded, hle⟩ := h calls.length [_] (List.append_nil _)
    rw [SdlpSpacePacketReceiver.processChunks_eq, Except.ok.injEq,
      List.flatten_singleton] at hdecoded
    rw [List.take_length] at hdecoded hle
    rw [← hdecoded, (hrun calls).2] at hle
    exact (hzero calls).mp (by omega)
  · -- the log of the first sends is a prefix of the whole log
    intro h m chunks hchunks
    have hpre : (self.sendAll (calls.take m)).2.serialPort.writes.Pairwise
        fun a b => ¬ CutPort.Completes a b := by
      obtain ⟨writes, hwrites, -, -⟩ :=
        (self.sendAll (calls.take m)).2.sendAll_cut (calls.drop m)
      rw [← TcCommandSender.sendAll_append, List.take_append_drop] at hwrites
      rw [hwrites] at h
      exact (List.pairwise_append.mp h).1
    refine ⟨_, by rw [SdlpSpacePacketReceiver.processChunks_eq], ?_⟩
    rw [hchunks, (hrun _).2, (hzero _).mpr hpre]
    exact Nat.le_refl _

/-- A sender whose first write falls one byte short and whose second write transmits
just one. -/
def shortSender : TcCommandSender CutPort where
  serialPort := ⟨fun n => if n = 0 then 18 else 1, []⟩
  config := { spacecraftId := 1, virtualChannelId := 0, spacePacketApid := 100 }
  packetSequenceCount := 0
  frameSequenceNumber := 0
  packetSequenceCount_le := by decide
  frameSequenceNumber_le := by decide

def twoRequests : List (TcCommandArg × Option ℤ) :=
  [(.name .requestStatus, none), (.name .requestStatus, none)]

/-- Both sends raise, and the packet of the first one is delivered. -/
theorem failed_send_delivered :
    (shortSender.sendAll twoRequests).1 =
        [.error (.osError "serial port write was incomplete"),
          .error (.osError "serial port write was incomplete")] ∧
      (SdlpSpacePacketReceiver.init.processUartBytes
          (CutPort.transmitted
            (shortSender.sendAll twoRequests).2.serialPort.writes)).1.toOption.map
        (fun decoded => decoded.map fun d =>
          (d.frameType, d.spacePacket.apid, d.spacePacket.sequenceCount, d.spacePacket.dataField)) =
        some [(.tc, 100, 0, [0x04])] := by
  decide

/-- A sender whose writes transmit everything, then five bytes, then all but the last one, and
then nothing. -/
def interruptedSender : TcCommandSender CutPort where
  serialPort := ⟨fun n => [19, 5, 18].getD n 0, []⟩
  config := { spacecraftId := 1, virtualChannelId := 0, spacePacketApid := 100 }
  packetSequenceCount := 0
  frameSequenceNumber := 0
  packetSequenceCount_le := by decide
  frameSequenceNumber_le := by decide

def fourRequests : List (TcCommandArg × Option ℤ) := twoRequests ++ twoRequests

/-- One send returns, and at most its packet is delivered: a single byte of the fourth write
would deliver the third command as well. -/
theorem delivered_le_returned_interrupted :
    (TcCommandSender.accepted fourRequests (interruptedSender.sendAll fourRequests).1).length = 1 ∧
      ∀ m, ∀ chunks : List Bytes, chunks.flatten = CutPort.transmitted
          (interruptedSender.sendAll (fourRequests.take m)).2.serialPort.writes →
        ∃ decoded, (SdlpSpacePacketReceiver.init.processChunks chunks).1 = .ok decoded ∧
          decoded.length ≤ (TcCommandSender.accepted (fourRequests.take m)
            (interruptedSender.sendAll (fourRequests.take m)).1).length := by
  have hnew : TcCommandSender.new ⟨interruptedSender.serialPort.cut, []⟩
      interruptedSender.config 0 0 = .ok interruptedSender := rfl
  exact ⟨by decide, (delivered_le_returned_iff hnew fourRequests).mpr (by decide)⟩

end OpenSpaceEgse
