import WispersConnect.SessionKeys
import WispersConnect.SlidingWindows

/-!
# Round trips to the hub, and starting checks together

Each call to the hub yields a sample: the time it took less the time the hub says it
spent. The estimate is the smallest recent sample. A caller sends its estimate along,
and the answerer waits for half of both round trips before it starts its checks, so
that both start together. Times are in nanoseconds.
-/

namespace WispersConnect.RttEstimates

open Messages OutcomeMonad Cryptography RosterBuilders NodeLifecycle PeerSigning PeerEncoding
open PeerConnections SessionKeys SymbolicCrypto SlidingWindows

/-- When a sample was taken, and the round trip it says. -/
abbrev Sample := ℕ×ℕ

/-- `MAX_SAMPLES`. -/
def maxSamples : ℕ := 8

/-- `MAX_AGE`. -/
def maxAge : ℕ := 5*60*10^9

/-- A sample is less than `MAX_AGE` old; the age of a later one counts as zero. -/
def isRecent (now taken : ℕ) : Bool := decide (now-taken < maxAge)

/-- `RttEstimator`, with its samples from front to back. -/
structure RttEstimator where
  /-- The samples kept. -/
  samples : List Sample
  deriving DecidableEq

/-- `RttEstimator::new`. -/
def RttEstimator.new : RttEstimator := ⟨[]⟩

/-- `estimate`. -/
def RttEstimator.estimate (rtt : RttEstimator) (now : ℕ) : Option ℕ :=
  let estimate := ((rtt.samples.filter fun s => isRecent now s.1).map Prod.snd).min?
  if estimate=none then (rtt.samples.map Prod.snd).min? else estimate

/-- `observe`. -/
def RttEstimator.observe (rtt : RttEstimator) (sample now : ℕ) : RttEstimator :=
  let samples := rtt.samples.filter fun s => isRecent now s.1
  let samples := if samples.length=maxSamples then samples.tail else samples
  ⟨samples++[(now,sample)]⟩

/-- The estimator after a history of samples, in the order in which they were let in. -/
def observeAll (history : List Sample) : RttEstimator :=
  history.foldl (fun rtt s => rtt.observe s.2 s.1) .new

/-- The sample of a stream that was opened, by its first message. -/
def welcomeSample (elapsed : ℕ) (serverSideInitLatencyUsec : Int64) : ℕ :=
  elapsed-serverSideInitLatencyUsec.toInt.toNat*1000

/-- The smallest of the last eight samples that are recent. -/
def recentMinimum (history : List Sample) (now : ℕ) : Option ℕ :=
  (((history.rtake maxSamples).filter fun s => isRecent now s.1).map Prod.snd).min?

section Window

/-- Samples age. -/
theorem isRecent_ageing : Ageing isRecent where
  now t := by simp [isRecent,maxAge]
  earlier h hrecent := by
    simp only [isRecent,decide_eq_true_eq] at hrecent ⊢
    omega
  younger h hrecent := by
    simp only [isRecent,decide_eq_true_eq] at hrecent ⊢
    omega

/-- The estimator keeps a window of its history. -/
theorem samples_observeAll (history : List Sample) :
    (observeAll history).samples=windowOf isRecent maxSamples history := by
  induction history using List.reverseRecOn with
  | nil => rfl
  | append_singleton history s ih =>
    have hstep : observeAll (history++[s])=(observeAll history).observe s.2 s.1 := by
      simp only [observeAll,List.foldl_append,List.foldl_cons,List.foldl_nil]
    rw [hstep,windowOf_concat,←ih]
    rfl

/-- The last sample is kept. -/
theorem last_mem_samples (history : List Sample) (s : Sample) :
    s∈(observeAll (history++[s])).samples := by
  rw [samples_observeAll,windowOf_concat]
  exact List.mem_append_right _ List.mem_cons_self

/-- There is an estimate once there was a sample. -/
theorem estimate_isSome {history : List Sample} (h : history≠[]) (now : ℕ) :
    ((observeAll history).estimate now).isSome=true := by
  obtain ⟨before,s,rfl⟩ := List.eq_nil_or_concat' history |>.resolve_left h
  have hkept := List.mem_map_of_mem (f:=Prod.snd) (last_mem_samples before s)
  unfold RttEstimator.estimate
  dsimp only
  split
  next => exact List.isSome_min?_of_mem hkept
  next hsome => exact Option.isSome_iff_ne_none.mpr hsome

/-- An estimate is one of the samples that are kept. -/
theorem estimate_mem {rtt : RttEstimator} {now e : ℕ} (h : rtt.estimate now=some e) :
    ∃ s∈rtt.samples,s.2=e := by
  unfold RttEstimator.estimate at h
  dsimp only at h
  split at h
  next =>
    obtain ⟨s,hs,he⟩ := List.mem_map.mp (List.min?_mem h)
    exact ⟨s,hs,he⟩
  next =>
    obtain ⟨s,hs,he⟩ := List.mem_map.mp (List.min?_mem h)
    exact ⟨s,(List.mem_filter.mp hs).1,he⟩

/-- An estimate is no larger than a recent sample that is kept. -/
theorem estimate_le {rtt : RttEstimator} {now : ℕ} {s : Sample} (hs : s∈rtt.samples)
    (hrecent : isRecent now s.1=true) : ∃ e,rtt.estimate now=some e ∧ e ≤ s.2 := by
  have hmem : s.2∈(rtt.samples.filter fun s => isRecent now s.1).map Prod.snd :=
    List.mem_map_of_mem (List.mem_filter.mpr ⟨hs,hrecent⟩)
  obtain ⟨e,he⟩ := Option.isSome_iff_exists.mp (List.isSome_min?_of_mem hmem)
  refine ⟨e,?_,(List.min?_eq_some_iff.mp he).2 s.2 hmem⟩
  unfold RttEstimator.estimate
  dsimp only
  rw [he,if_neg (Option.some_ne_none e)]

end Window

/-- An estimate is a sample that no later call found stale. -/
theorem estimate_lasting {history : List Sample} {now e : ℕ}
    (h : (observeAll history).estimate now=some e) : ∃ s∈lasting isRecent history,s.2=e := by
  obtain ⟨s,hs,rfl⟩ := estimate_mem h
  rw [samples_observeAll] at hs
  exact ⟨s,(windowOf_sublist_lasting history).subset hs,rfl⟩

/-- What an estimate says of a history of samples, whatever the order of their times. -/
structure Estimates (history : List Sample) (now : ℕ) (rtt : RttEstimator) : Prop where
  /-- The memory is bounded. -/
  bounded : rtt.samples.length ≤ maxSamples
  /-- There is an estimate once there was a sample. -/
  some_iff : (rtt.estimate now).isSome=true ↔ history≠[]
  /-- It is a sample that no later call found stale. -/
  sampled : ∀ e,rtt.estimate now=some e → ∃ s∈lasting isRecent history,s.2=e
  /-- It is no larger than any of the last eight samples that is recent and that no later
  call found stale. -/
  least : ∀ s∈lasting isRecent (history.rtake maxSamples),isRecent now s.1=true →
    ∃ e,rtt.estimate now=some e ∧ e ≤ s.2

/-- In whatever order concurrent calls let their samples in, the estimator forgets none of
the last eight samples before they are stale, and remembers none that was found stale. -/
theorem observeAll_estimates (history : List Sample) (now : ℕ) :
    Estimates history now (observeAll history) where
  bounded := by
    rw [samples_observeAll]
    exact length_windowOf (by decide) history
  some_iff := by
    constructor
    · rintro h rfl
      cases h
    · intro h
      exact estimate_isSome h now
  sampled _ he := estimate_lasting he
  least s hs hrecent := by
    refine estimate_le ?_ hrecent
    rw [samples_observeAll]
    exact (lasting_rtake_suffix_windowOf history).subset hs

/-- Where calls let their samples in one after another, the estimate is the smallest of the
last eight samples that are recent, or else of those that were when the last one came. -/
theorem estimate_recent (history : List Sample) (last : Sample) (now : ℕ)
    (hordered : (history++[last]).Pairwise fun s s' => s.1 ≤ s'.1) (hnow : last.1≤now) :
    (observeAll (history++[last])).estimate now=
      (recentMinimum (history++[last]) now).or (recentMinimum (history++[last]) last.1) := by
  have hsamples : (observeAll (history++[last])).samples=
      ((history++[last]).rtake maxSamples).filter fun s => isRecent last.1 s.1 := by
    rw [samples_observeAll]
    exact windowOf_eq isRecent_ageing (by decide) hordered
  have hboth : ((observeAll (history++[last])).samples.filter fun s => isRecent now s.1)=
      ((history++[last]).rtake maxSamples).filter fun s => isRecent now s.1 := by
    rw [hsamples,List.filter_filter]
    refine List.filter_congr fun s _ => ?_
    cases hs : isRecent now s.1 with
    | false => rfl
    | true => rw [isRecent_ageing.earlier hnow hs,Bool.and_true]
  unfold RttEstimator.estimate
  dsimp only
  rw [hboth,hsamples]
  cases hrecent : recentMinimum (history++[last]) now with
  | none =>
    rw [Option.none_or]
    exact if_pos hrecent
  | some e =>
    rw [Option.some_or,←hrecent]
    exact if_neg fun hnone => Option.some_ne_none e (hrecent.symm.trans hnone)

section Checks

/-- `CALLER_ICE_START_DELAY`. -/
def callerIceStartDelay : ℕ := 50*10^6

/-- When a caller starts its checks, by when the answer reached it. -/
def callerStart (answerReceived : ℕ) : ℕ := answerReceived+callerIceStartDelay

/-- When an answerer starts its checks, by when it sent its answer. -/
def answererStart (answerSent : ℕ) (incoming : IncomingConnection) : ℕ :=
  answerSent+incoming.startDelay

/-- The samples of a node are those of one round trip, none too small and none more than a
spread too large. -/
def Measures (history : List Sample) (roundTrip spread : ℕ) : Prop :=
  history≠[] ∧ ∀ s∈history,roundTrip ≤ s.2 ∧ s.2 ≤ roundTrip+spread

/-- An estimate is as good as the samples. -/
theorem Measures.estimate {history : List Sample} {roundTrip spread : ℕ}
    (h : Measures history roundTrip spread) (now : ℕ) :
    ∃ e,(observeAll history).estimate now=some e ∧ roundTrip≤e ∧ e ≤ roundTrip+spread := by
  obtain ⟨e,he⟩ := Option.isSome_iff_exists.mp (estimate_isSome h.1 now)
  obtain ⟨s,hs,rfl⟩ := estimate_lasting he
  exact ⟨s.2,he,h.2 s ((lasting_sublist history).subset hs)⟩

/-- The estimate of a caller arrives rounded down to microseconds. -/
theorem rttUsec_toNat {e : ℕ} (h : e/1000<2^63) :
    (rttUsec (some (e/1000))).toInt=(e/1000 : ℕ) := by
  rw [rttUsec,Option.getD_some,if_pos h]
  exact Int64.toInt_ofNat_of_lt h

/-- The delay of an answerer that knows both round trips. -/
theorem computeCheckStartDelay_both {own e : ℕ} (hpos : 1000≤e) (h : e/1000<2^63) :
    computeCheckStartDelay (some own) (rttUsec (some (e/1000))) callerIceStartDelayUsec=
      (e/1000*1000+own)/2+callerIceStartDelay := by
  have hvalue := rttUsec_toNat h
  have hzero : 0 < rttUsec (some (e/1000)) := by
    rw [Int64.lt_iff_toInt_lt,hvalue]
    have hdiv : 1≤e/1000 := (Nat.one_le_div_iff (by omega)).mpr hpos
    exact Int.ofNat_lt.mpr hdiv
  have hwait : callerIceStartDelayUsec.toInt.toNat*1000=callerIceStartDelay := by decide
  unfold computeCheckStartDelay
  dsimp only
  rw [if_pos hzero,hvalue,hwait,Int.toNat_natCast]

/-- A call that is started sends the caller's estimate along. -/
theorem startCall_timing {C : PeerCrypto} {node : Node C.toCrypto} {peerNodeNumber : Int32}
    {transport : Transport} {env : CallEnvironment} {call : PeerCall}
    (h : (Node.startCall node peerNodeNumber transport env).2=.ok call) :
    call.payload.callerHubRttUsec=rttUsec env.rttEstimate ∧
      call.payload.callerIceStartDelayUsec=callerIceStartDelayUsec := by
  unfold Node.startCall at h
  dsimp only at h
  split at h
  · simp only [Outcome.bind_eq_ok,Outcome.pure_eq_ok,Outcome.ok.injEq] at h
    obtain ⟨config,_,callerSdp,_,rfl⟩ := h
    exact ⟨rfl,rfl⟩
  · cases h
  · cases h

/-- An answer to a call has the answerer wait by the caller's estimate and its own. -/
theorem answer_timing {C : PeerCrypto} (hdecodes : C.Decodes) {session : ServingSession C}
    {callerNodeNumber : Int32} {key : C.SigningKey} {payload : RequestPayload}
    {env : ServingEnvironment} {answer : SignedAnswer} {incoming : IncomingConnection}
    (h : (session.handleStartConnectionRequest callerNodeNumber
      (buildSignedRequest C key payload) env).2=.ok answer)
    (hstarted : answer.started=some incoming) :
    incoming.startDelay=computeCheckStartDelay env.ownRtt payload.callerHubRttUsec
      payload.callerIceStartDelayUsec := by
  obtain ⟨_,received,answererSdp,⟨_,_,callerNode,_,_,_,_,_,hverified⟩,_,rfl⟩ :=
    handleStartConnectionRequest_eq_ok.mp h
  obtain ⟨_,_,_,hreceived⟩ := verifySigned_eq_ok.mp hverified
  obtain rfl := Option.some.inj (hreceived.symm.trans (hdecodes.request payload))
  unfold ServingSession.signAnswer at hstarted
  dsimp only at hstarted
  split at hstarted
  next => rw [←Option.some.inj hstarted]
  next => cases hstarted

/-- Both ends of a connection start their checks together: where both know their round trip
to the hub up to a spread, and the answer takes half of both, the answerer starts at most
half a microsecond before the caller and at most the spread after it. -/
theorem checks_start_together {C : PeerCrypto} (hdecodes : C.Decodes) (node : Node C.toCrypto)
    (peerNodeNumber : Int32) (transport : Transport) (env : CallEnvironment) (call : PeerCall)
    (session : ServingSession C) (callerNodeNumber : Int32) (serving : ServingEnvironment)
    (answer : SignedAnswer) (incoming : IncomingConnection)
    (callerHistory answererHistory : List Sample) (callerTime answererTime : ℕ)
    (callerRtt answererRtt spread answerSent answerReceived : ℕ)
    (hcaller : Measures callerHistory callerRtt spread)
    (hanswerer : Measures answererHistory answererRtt spread)
    (hknown : 1000 ≤ callerRtt) (hbound : callerRtt+spread<2^63)
    (htravel : 2*(answerReceived-answerSent)=callerRtt+answererRtt)
    (hcallerEstimate :
      env.rttEstimate=((observeAll callerHistory).estimate callerTime).map (·/1000))
    (hanswererEstimate : serving.ownRtt=(observeAll answererHistory).estimate answererTime)
    (hcall : (Node.startCall node peerNodeNumber transport env).2=.ok call)
    (hanswer : (session.handleStartConnectionRequest callerNodeNumber call.request serving).2=
      .ok answer)
    (hstarted : answer.started=some incoming) :
    callerStart answerReceived≤answererStart answerSent incoming+500 ∧
      answererStart answerSent incoming ≤ callerStart answerReceived+spread := by
  obtain ⟨e,he,hlow,hhigh⟩ := hcaller.estimate callerTime
  obtain ⟨own,hown,hownLow,hownHigh⟩ := hanswerer.estimate answererTime
  obtain ⟨hrtt,hwait⟩ := startCall_timing hcall
  have hdelay : incoming.startDelay=(e/1000*1000+own)/2+callerIceStartDelay := by
    have hsmall : e/1000<2^63 := lt_of_le_of_lt (Nat.div_le_self e 1000) (by omega)
    have hrequest := (startCall_eq_ok hcall).1
    rw [hrequest] at hanswer
    rw [answer_timing hdecodes hanswer hstarted,hrtt,hwait,hcallerEstimate,he,hanswererEstimate,
      hown,←computeCheckStartDelay_both (by omega) hsmall]
    rfl
  unfold callerStart answererStart
  rw [hdelay]
  omega

/-- Node 1 calls, with a round trip of 20 ms. -/
def timedCall : CallEnvironment := {firstEnvironment with rttEstimate := some 20000}

/-- Node 2 answers, with a round trip of 30 ms. -/
def timedServing : ServingEnvironment := {trioServing with ownRtt := some (30*10^6)}

/-- The call of node 1 to node 2. -/
def timedRequest : PeerCall :=
  buildCall sealedCrypto (1 : UInt8) firstRegistration ⟨2,symbolicSpki 2,false⟩ 2 .datagram
    trioServers "offer" timedCall

/-- What node 2 answers to it. -/
def timedAnswer : SignedAnswer :=
  secondSession.signAnswer 1 timedRequest.payload 1 "answer" timedServing

/-- Nodes 1 and 2 start together, 75 ms after the answer was sent. -/
theorem checks_start_together_trio : ∃ incoming,timedAnswer.started=some incoming ∧
    callerStart (25*10^6)≤answererStart 0 incoming+500 ∧
      answererStart 0 incoming ≤ callerStart (25*10^6)+0 := by
  obtain ⟨keys,hkeys⟩ := sealedTrio_accepted
  have hverified : verifyRequest sealedCrypto timedRequest.request (symbolicSpki 1)=
      .ok timedRequest.payload := verifyRequest_built sealedCrypto_spkiRoundTrip
    sealedCrypto_signsCorrectly sealedCrypto_decodes (1 : UInt8) timedRequest.payload
  have hvetted : Vetted secondSession 1 timedRequest.request timedServing.hub
      timedRequest.payload :=
    ⟨sealedTrio,keys,⟨1,symbolicSpki 1,false⟩,rfl,hkeys,List.mem_cons_self,rfl,rfl,hverified⟩
  have hanswers := handleStartConnectionRequest_eq_ok.mpr
    ⟨rfl,timedRequest.payload,"answer",hvetted,⟨rfl,_,rfl,rfl⟩,rfl⟩
  exact ⟨_,rfl,checks_start_together sealedCrypto_decodes firstCaller 2 .datagram timedCall
    timedRequest secondSession 1 timedServing timedAnswer _ [(0,20*10^6)] [(5,30*10^6)] 7 9
    (20*10^6) (30*10^6) 0 0 (25*10^6) ⟨by decide,by decide⟩ ⟨by decide,by decide⟩ (by decide)
    (by decide) (by decide) (by decide) (by decide) rfl hanswers rfl⟩

end Checks

/-- Eight samples of 40 ms, after one of 20 ms that they drive out, and one that is late. -/
theorem estimate_recent_outage :
    (observeAll ([(0,20*10^6)]++List.replicate 7 (10^9,40*10^6)++[(2*10^9,45*10^6)])).estimate
      (400*10^9)=some (40*10^6) ∧
    (observeAll ([(0,20*10^6)]++List.replicate 7 (10^9,40*10^6)++[(2*10^9,45*10^6)])).estimate
      (302*10^9-1)=some (45*10^6) := by
  have hordered : (([(0,20*10^6)]++List.replicate 7 (10^9,40*10^6)++
      [(2*10^9,45*10^6)] : List Sample).Pairwise fun s s' => s.1 ≤ s'.1) := by decide
  constructor
  · rw [estimate_recent _ _ _ hordered (by decide)]
    decide
  · rw [estimate_recent _ _ _ hordered (by decide)]
    decide

end WispersConnect.RttEstimates
