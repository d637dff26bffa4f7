import ProcessBus.Generator.Workers
import ProcessBus.Processor.Found
import ProcessBus.Processor.InOrder
import ProcessBus.Processor.Lost

/-!
# The whole system

Generators send the streams the receiver is set up for, GOOSE streams of one kind and SV streams of
one kind. Frames are lost, but those of a stream that arrive do so in order. Then the receiver has
counted every frame that has arrived as one of its streams and no frame as anything else, and
`CountGaps` is the number of losses it could notice.
-/

namespace ProcessBus

open RSess RFrame

/-! ### Streams and their sources -/

section Streams

variable {K S : Type} [HasAppId K] [BEq K]

/-- Every frame of a stream finds the source of the stream and tells it its number. -/
structure Heard (hit : ℕ → RxFrame → Option (K × (S → S))) (c : AppIdContainer K ℕ)
    (proto : BusProto) (counts : S → GapCounts) (gap : UInt32 → UInt32 → Prop) [DecidableRel gap]
    (spduNumber : ℕ → Option UInt32) (value : ℕ → UInt32) (num : ℕ)
    (sent : ℕ → List Mem × ℕ) : Prop where
  finds : ∀ i < num, ∀ (j : ℕ) f frame, (sent i).1[j]? = some f → Delivered f (sent i).2 frame →
    Finds hit c proto i frame
  tells : ∀ i < num, ∀ (j : ℕ) f frame, (sent i).1[j]? = some f → Delivered f (sent i).2 frame →
    Tells hit counts gap frame (spduNumber j) (value (j + 1))

/-- What each element of a list has for large values of the fuel, all have for large values. -/
lemma exists_fuel {α : Type} {P : ℕ → α → Prop} (l : List α)
    (h : ∀ a ∈ l, ∃ f, ∀ fuel, f ≤ fuel → P fuel a) :
    ∃ f, ∀ fuel, f ≤ fuel → ∀ a ∈ l, P fuel a := by
  induction l with
  | nil => exact ⟨0, fun _ _ _ ha => absurd ha List.not_mem_nil⟩
  | cons a l ih =>
    rw [List.forall_mem_cons] at h
    obtain ⟨f₁, hf₁⟩ := h.1
    obtain ⟨f₂, hf₂⟩ := ih h.2
    refine ⟨max f₁ f₂, fun fuel hfuel => ?_⟩
    rw [List.forall_mem_cons]
    exact ⟨hf₁ fuel (le_of_max_le_left hfuel), hf₂ fuel (le_of_max_le_right hfuel)⟩

variable {hit : ℕ → RxFrame → Option (K × (S → S))} {c : AppIdContainer K ℕ} {proto : BusProto}
  {counts : S → GapCounts} {gap : UInt32 → UInt32 → Prop} [DecidableRel gap]
  {spduNumber : ℕ → Option UInt32} {value : ℕ → UInt32} {num : ℕ} {sent : ℕ → List Mem × ℕ}
  {κ : Type} [DecidableEq κ] {key : ℕ → κ} {mask : ℕ → List Bool}
  {arrivals : List (κ × RxFrame)}

/-- The frames that arrive of a stream find their source. -/
lemma Heard.finds_of_survive (h : Heard hit c proto counts gap spduNumber value num sent)
    (hsurvive : ∀ i < num, Survive (sent i).1 (sent i).2 (mask i) (arrivalsOf (key i) arrivals)) :
    ∀ i < num, ∀ frame ∈ arrivalsOf (key i) arrivals, Finds hit c proto i frame := by
  intro i hi frame hframe
  obtain ⟨n, hn, rfl⟩ := List.getElem_of_mem hframe
  obtain ⟨f, hf, hdel⟩ := (hsurvive i hi).get
    (by rw [(hsurvive i hi).length_eq]; exact hn) hn
  exact h.finds i hi _ f _ hf hdel

/-- With enough fuel, all frames that arrive are looked up under the passport of their source. -/
lemma Heard.looked_up (h : Heard hit c proto counts gap spduNumber value num sent)
    (hsurvive : ∀ i < num, Survive (sent i).1 (sent i).2 (mask i) (arrivalsOf (key i) arrivals)) :
    ∃ f, ∀ fuel, f ≤ fuel → ∀ i < num, ∀ frame ∈ arrivalsOf (key i) arrivals,
      ∃ pass take, hit fuel frame = some (pass, take) ∧ c.lookup pass = some i := by
  obtain ⟨f, hf⟩ := exists_fuel (P := fun fuel i => ∀ frame ∈ arrivalsOf (key i) arrivals,
    ∃ pass take, hit fuel frame = some (pass, take) ∧ c.lookup pass = some i) (List.range num) <| by
    intro i hi
    apply exists_fuel
    intro frame hframe
    exact (h.finds_of_survive hsurvive i (List.mem_range.mp hi) frame hframe).found
  exact ⟨f, fun fuel hfuel i hi => hf fuel hfuel i (List.mem_range.mpr hi)⟩

/-- And what each source counts is determined by what was lost. -/
lemma Heard.counted (h : Heard hit c proto counts gap spduNumber value num sent)
    (hsurvive : ∀ i < num, Survive (sent i).1 (sent i).2 (mask i) (arrivalsOf (key i) arrivals))
    {src : ℕ → S} (hsrc : ∀ i, counts (src i) = ((value 0, 0), (0, 0))) :
    ∃ f, ∀ fuel, f ≤ fuel → ∀ i < num,
      (counts ((arrivalsOf (key i) arrivals).foldl (deliver (hit fuel)) (src i))).1.2 =
        UInt32.ofNat (Losses.errors gap (value 0)
          ((Losses.arriving 0 (mask i)).map fun j => value (j + 1))) ∧
      (counts ((arrivalsOf (key i) arrivals).foldl (deliver (hit fuel)) (src i))).2.2 =
        UInt32.ofNat (Losses.errors SpduGaps 0
          ((Losses.arriving 0 (mask i)).filterMap spduNumber)) := by
  obtain ⟨f, hf⟩ := exists_fuel (P := fun fuel i =>
      (counts ((arrivalsOf (key i) arrivals).foldl (deliver (hit fuel)) (src i))).1.2 =
        UInt32.ofNat (Losses.errors gap (value 0)
          ((Losses.arriving 0 (mask i)).map fun j => value (j + 1))) ∧
      (counts ((arrivalsOf (key i) arrivals).foldl (deliver (hit fuel)) (src i))).2.2 =
        UInt32.ofNat (Losses.errors SpduGaps 0
          ((Losses.arriving 0 (mask i)).filterMap spduNumber))) (List.range num) <| by
    intro i hi
    have hi := List.mem_range.mp hi
    apply counts_of_arriving _ (hsrc i)
    exact (hsurvive i hi).imp fun j frame ⟨f, hf, hdel⟩ => h.tells i hi j f frame hf hdel
  exact ⟨f, fun fuel hfuel i hi => hf fuel hfuel i (List.mem_range.mpr hi)⟩

end Streams

/-! ### One frame after the other -/

section Frames

variable {fuel : ℕ} {crypto : Crypto} {app : RxApplication} {frame frame' : RxFrame}

lemma stageStep_of_gooseHit {pass : GoosePassport} {take : GooseSource → GooseSource}
    (h : gooseHit fuel crypto app.m_rMode frame = some (pass, take)) :
    stageStep fuel crypto app frame = app.takeGoose pass take := by
  unfold gooseHit at h
  unfold stageStep
  cases hproto : protoOf frame with
  | NON_BUS_PROTO | BUS_PROTO_SV | BUS_PROTO_R_SV => simp [hproto] at h
  | BUS_PROTO_GOOSE =>
    simp only [hproto] at h
    simp only [gooseStage]
    cases hr : (parseGoosePacket fuel frame.packet frame.size {} {}).val with
    | none =>
      rw [hr] at h
      cases h
    | some r =>
      rw [hr] at h
      dsimp only at h
      split_ifs at h with hcode
      cases h
      exact if_pos hcode
  | BUS_PROTO_R_GOOSE =>
    simp only [hproto] at h
    simp only [rGooseStage]
    split_ifs at h with henv
    rw [if_neg henv]
    cases hr : (parseRGoosePacket fuel frame.packet frame.size app.m_rMode crypto {} {} {}).val with
    | none =>
      rw [hr] at h
      cases h
    | some x =>
      obtain ⟨r, session⟩ := x
      rw [hr] at h
      dsimp only at h
      split_ifs at h with hcode
      cases h
      exact if_pos hcode

lemma stageStep_of_svHit {pass : SVStreamPassport} {take : SVStreamSource → SVStreamSource}
    (h : svHit fuel crypto app.m_rMode frame = some (pass, take)) :
    stageStep fuel crypto app frame = app.takeSV pass take := by
  unfold svHit at h
  unfold stageStep
  cases hproto : protoOf frame with
  | NON_BUS_PROTO | BUS_PROTO_GOOSE | BUS_PROTO_R_GOOSE => simp [hproto] at h
  | BUS_PROTO_SV =>
    simp only [hproto] at h
    simp only [sampledValuesStage]
    cases hr : (parseSvPacket fuel frame.packet frame.size {} {}).val with
    | none =>
      rw [hr] at h
      cases h
    | some r =>
      rw [hr] at h
      dsimp only at h
      split_ifs at h with hcode
      cases h
      exact if_pos hcode
  | BUS_PROTO_R_SV =>
    simp only [hproto] at h
    simp only [rSampledValuesStage]
    split_ifs at h with henv
    rw [if_neg henv]
    cases hr : (parseRSvPacket fuel frame.packet frame.size app.m_rMode crypto {} {} {}).val with
    | none =>
      rw [hr] at h
      cases h
    | some x =>
      obtain ⟨r, session⟩ := x
      rw [hr] at h
      dsimp only at h
      split_ifs at h with hcode
      cases h
      exact if_pos hcode

/-- The application after frames of its streams and nothing else. -/
def RxApplication.afterTraffic (app : RxApplication) (fuel : ℕ) (crypto : Crypto)
    (arrivals : List ((ℕ ⊕ ℕ) × RxFrame)) : RxApplication :=
  { app with
    gooseSources := app.gooseSources.mapIdx fun i src =>
      (arrivalsOf (.inl i) arrivals).foldl (deliver (gooseHit fuel crypto app.m_rMode)) src
    svSources := app.svSources.mapIdx fun i src =>
      (arrivalsOf (.inr i) arrivals).foldl (deliver (svHit fuel crypto app.m_rMode)) src
    m_rxGoosePktCnt := app.m_rxGoosePktCnt + UInt64.ofNat (arrivals.countP (·.1.isLeft))
    m_rxSVPktCnt := app.m_rxSVPktCnt + UInt64.ofNat (arrivals.countP (·.1.isRight)) }

variable (fuel crypto app) in
/-- Each frame is looked up under the passport of the source it belongs to. -/
def LookedUp : (ℕ ⊕ ℕ) × RxFrame → Prop
  | (.inl i, frame) => ∃ pass take, gooseHit fuel crypto app.m_rMode frame = some (pass, take) ∧
      app.m_gooseMap.lookup pass = some i
  | (.inr i, frame) => ∃ pass take, svHit fuel crypto app.m_rMode frame = some (pass, take) ∧
      app.m_svMap.lookup pass = some i

lemma arrivalsOf_cons {κ : Type} [DecidableEq κ] (key : κ) (a : κ × RxFrame)
    (arrivals : List (κ × RxFrame)) : arrivalsOf key (a :: arrivals) =
      if a.1 = key then a.2 :: arrivalsOf key arrivals else arrivalsOf key arrivals := by
  unfold arrivalsOf
  rw [List.filter_cons]
  by_cases h : a.1 = key <;> simp [h]

/-- Taking a frame first and the other ones of the stream after it. -/
lemma mapIdx_modify {S : Type} (sources : List S) (i : ℕ) (take : S → S) (f : ℕ → S → S) :
    (sources.modify i take).mapIdx f =
      sources.mapIdx fun j src => f j (if i = j then take src else src) := by
  apply List.ext_getElem?
  intro j
  rw [List.getElem?_mapIdx, List.getElem?_mapIdx, List.getElem?_modify]
  cases sources[j]? with
  | none => rfl
  | some src => by_cases h : i = j <;> simp [h]

lemma ofNat_countP_cons (n : UInt64) (k : ℕ) :
    n + 1 + UInt64.ofNat k = n + UInt64.ofNat (k + 1) := by
  rw [Nat.add_comm k, UInt64.ofNat_add, ← UInt64.add_assoc]
  rfl

/-- A GOOSE frame of stream `i` in front of the others. -/
lemma afterTraffic_goose {i : ℕ} {pass : GoosePassport} {take : GooseSource → GooseSource}
    (hhit : gooseHit fuel crypto app.m_rMode frame = some (pass, take))
    (arrivals : List ((ℕ ⊕ ℕ) × RxFrame)) :
    RxApplication.afterTraffic { app with
        gooseSources := app.gooseSources.modify i take
        m_rxGoosePktCnt := app.m_rxGoosePktCnt + 1 } fuel crypto arrivals =
      app.afterTraffic fuel crypto ((.inl i, frame) :: arrivals) := by
  have hsources : (app.gooseSources.modify i take).mapIdx (fun j src =>
      (arrivalsOf (.inl j) arrivals).foldl (deliver (gooseHit fuel crypto app.m_rMode)) src) =
      app.gooseSources.mapIdx fun j src => (arrivalsOf (.inl j) ((.inl i, frame) :: arrivals)).foldl
        (deliver (gooseHit fuel crypto app.m_rMode)) src := by
    rw [mapIdx_modify]
    congr 1
    funext j src
    rw [arrivalsOf_cons]
    by_cases h : i = j
    · simp [h, deliver, hhit]
    · simp [h]
  simp only [RxApplication.afterTraffic, hsources, ofNat_countP_cons, arrivalsOf_cons]
  simp [List.countP_cons]

/-- An SV frame of stream `i` in front of the others. -/
lemma afterTraffic_sv {i : ℕ} {pass : SVStreamPassport} {take : SVStreamSource → SVStreamSource}
    (hhit : svHit fuel crypto app.m_rMode frame = some (pass, take))
    (arrivals : List ((ℕ ⊕ ℕ) × RxFrame)) :
    RxApplication.afterTraffic { app with
        svSources := app.svSources.modify i take
        m_rxSVPktCnt := app.m_rxSVPktCnt + 1 } fuel crypto arrivals =
      app.afterTraffic fuel crypto ((.inr i, frame) :: arrivals) := by
  have hsources : (app.svSources.modify i take).mapIdx (fun j src =>
      (arrivalsOf (.inr j) arrivals).foldl (deliver (svHit fuel crypto app.m_rMode)) src) =
      app.svSources.mapIdx fun j src => (arrivalsOf (.inr j) ((.inr i, frame) :: arrivals)).foldl
        (deliver (svHit fuel crypto app.m_rMode)) src := by
    rw [mapIdx_modify]
    congr 1
    funext j src
    rw [arrivalsOf_cons]
    by_cases h : i = j
    · simp [h, deliver, hhit]
    · simp [h]
  simp only [RxApplication.afterTraffic, hsources, ofNat_countP_cons, arrivalsOf_cons]
  simp [List.countP_cons]

/-- Frames of the streams, one after the other. -/
lemma foldl_traffic {arrivals : List ((ℕ ⊕ ℕ) × RxFrame)}
    (h : ∀ a ∈ arrivals, LookedUp fuel crypto app a) :
    (arrivals.map Prod.snd).foldl (stageStep fuel crypto) app =
      app.afterTraffic fuel crypto arrivals := by
  induction arrivals generalizing app with
  | nil =>
    have hid : ∀ {S : Type} (l : List S), l.mapIdx (fun _ src => src) = l := by
      intro S l
      apply List.ext_getElem?
      simp
    simp [RxApplication.afterTraffic, arrivalsOf, hid]
  | cons a arrivals ih =>
    rw [List.forall_mem_cons] at h
    obtain ⟨ha, h⟩ := h
    rcases a with ⟨i | i, frame⟩
    · obtain ⟨pass, take, hhit, hlookup⟩ := ha
      rw [List.map_cons, List.foldl_cons, stageStep_of_gooseHit hhit, RxApplication.takeGoose]
      simp only [hlookup]
      rw [← afterTraffic_goose hhit]
      exact ih h
    · obtain ⟨pass, take, hhit, hlookup⟩ := ha
      rw [List.map_cons, List.foldl_cons, stageStep_of_svHit hhit, RxApplication.takeSV]
      simp only [hlookup]
      rw [← afterTraffic_sv hhit]
      exact ih h

lemma gooseHit_of_sv (h : protoOf frame = .BUS_PROTO_SV ∨ protoOf frame = .BUS_PROTO_R_SV)
    (mode : SecurityMode) : gooseHit fuel crypto mode frame = none := by
  rcases h with h | h <;> simp [gooseHit, h]

lemma svHit_of_goose (h : protoOf frame = .BUS_PROTO_GOOSE ∨ protoOf frame = .BUS_PROTO_R_GOOSE)
    (mode : SecurityMode) : svHit fuel crypto mode frame = none := by
  rcases h with h | h <;> simp [svHit, h]

/-- A GOOSE frame and an SV frame can change places. -/
lemma stageStep_comm_goose_sv
    (h : protoOf frame = .BUS_PROTO_GOOSE ∨ protoOf frame = .BUS_PROTO_R_GOOSE)
    (h' : protoOf frame' = .BUS_PROTO_SV ∨ protoOf frame' = .BUS_PROTO_R_SV) :
    stageStep fuel crypto (stageStep fuel crypto app frame) frame' =
      stageStep fuel crypto (stageStep fuel crypto app frame') frame := by
  apply stageStep_comm
  · rw [gooseHit_of_sv h']
    intro i f g _ hnone
    cases hnone
  · rw [svHit_of_goose h]
    intro i f g hnone
    cases hnone

/-- The pipeline on frames of one GOOSE and one SV protocol. -/
lemma runBursts_traffic {bursts : List (List RxFrame)} {protoGoose protoSv : BusProto}
    (hgoose : protoGoose = .BUS_PROTO_GOOSE ∨ protoGoose = .BUS_PROTO_R_GOOSE)
    (hsv : protoSv = .BUS_PROTO_SV ∨ protoSv = .BUS_PROTO_R_SV)
    (h : ∀ frame ∈ bursts.flatten, protoOf frame = protoGoose ∨ protoOf frame = protoSv) :
    runBursts fuel crypto app bursts = bursts.flatten.foldl (stageStep fuel crypto) app := by
  rw [runBursts_eq_foldl]
  symm
  apply Fold.foldl_eq_of_classes protoOf (fun _ => True) (fun _ _ _ => trivial) _ _ trivial
  · intro app _ frame hframe frame' hframe' hne
    rcases h frame hframe with hp | hp <;> rcases h frame' hframe' with hp' | hp'
    · exact absurd (hp.trans hp'.symm) hne
    · exact stageStep_comm_goose_sv (hp ▸ hgoose) (hp' ▸ hsv)
    · exact (stageStep_comm_goose_sv (hp' ▸ hgoose) (hp ▸ hsv)).symm
    · exact absurd (hp.trans hp'.symm) hne
  · intro proto
    exact (filter_flatMap_stageOrder bursts proto).symm

end Frames

/-! ### What is sent -/

section Sent

/-- The GOOSE streams the receiver is set up for, `num` of them or none, and what is sent of each:
the frames and their size. -/
inductive GooseTraffic (conf : RxConfig) (crypto : Crypto) : ℕ → (ℕ → List Mem × ℕ) → Prop
  | idle (hconf : conf.gooseCounts = [0, 0]) : GooseTraffic conf crypto 0 fun _ => ([], 0)
  | l2 {msg : GooseMessage} {k : GooseLayout} {v : GooseValues} {num : UInt32}
      {s : Pool.State Unit UInt32 GooseTrafficGen} (hk : k.Describes v msg)
      (hsize : msg.size = (k.head.bytes 0xB8 ++ k.pdu v).length)
      -- the library takes over the destination it is given
      (hmac : k.head.addresses.take 6 = L2_GOOSE_MAC.m_mac)
      (hconf : ExpectsGoose conf num.toNat (k.entries.length + 1)) (hnum : num.toNat ≤ 65535)
      (hrun : GenKind.goose.Run (fun _ => .make msg num) s) :
      GooseTraffic conf crypto num.toNat fun i => (s.frames () (UInt32.ofNat i), msg.size)
  | routable {msg : GooseMessage} {k : GooseLayout} {v : GooseValues} {cfg : RFrameConfig}
      {num workers : UInt32} {gens : Fin workers.toNat → RGooseTrafficGen}
      {s : Pool.State (Fin workers.toNat) UInt32 RGooseTrafficGen} {sent : ℕ → List Mem × ℕ}
      (hk : k.Describes v msg) (hport : cfg.dstPort = UDP_DST_PORT)
      (hconf : ExpectsRGoose conf num.toNat (k.entries.length + 1) cfg) (hnum : num.toNat ≤ 65535)
      (hworkers : 1 ≤ workers)
      (hmake : ∀ w, makeRWorkers workers num
        (fun lo count => RGooseTrafficGen.make msg cfg crypto count lo) w = some (gens w))
      (hrun : (GenKind.rgoose cfg.mode).Run gens s)
      (hsent : ∀ (w : Fin workers.toNat) (idx : UInt32),
        let slice := iedSlice num workers (UInt32.ofNat w)
        idx < slice.2 - slice.1 →
        sent (slice.1.toNat + idx.toNat) = (s.frames w idx, (gens w).m_skeletonSize)) :
      GooseTraffic conf crypto num.toNat sent

/-- The SV streams the receiver is set up for. Only routable ones have a session. -/
inductive SvTraffic (conf : RxConfig) (crypto : Crypto) (type : SvType) :
    Bool → ℕ → (ℕ → List Mem × ℕ) → Prop
  | idle (hconf : conf.svCounts = [0, 0, 0, 0]) :
      SvTraffic conf crypto type false 0 fun _ => ([], 0)
  | l2 {msg : SvMessage} {k : SvLayout} {sID : List UInt8} {cnt : ℕ → List UInt8} {num : UInt32}
      {s : Pool.State Unit UInt32 SVTrafficGen} (hk : k.Describes sID cnt msg)
      (hsID : sID.length = 4) (hcnt : ∀ i, (cnt i).length = 2)
      (hasdus : k.asdus.length = type.asduNum)
      (hmac : k.head.addresses.take 6 = L2_SV_MAC.m_mac)
      (hconf : ExpectsSv conf type num.toNat) (hnum : num.toNat ≤ 9999)
      (hrun : (GenKind.sv type).Run (fun _ => .make msg num type) s) :
      SvTraffic conf crypto type false num.toNat
        fun i => (s.frames () (UInt32.ofNat i), msg.size)
  | routable {msg : SvMessage} {k : SvLayout} {sID : List UInt8} {cnt : ℕ → List UInt8}
      {cfg : RFrameConfig} {num workers : UInt32} {gens : Fin workers.toNat → RSVTrafficGen}
      {s : Pool.State (Fin workers.toNat) UInt32 RSVTrafficGen} {sent : ℕ → List Mem × ℕ}
      (hk : k.Describes sID cnt msg) (hsID : sID.length = 4) (hcnt : ∀ i, (cnt i).length = 2)
      (hasdus : k.asdus.length = type.asduNum) (hport : cfg.dstPort = UDP_DST_PORT)
      (hconf : ExpectsRSv conf type num.toNat cfg) (hnum : num.toNat ≤ 9999)
      (hworkers : 1 ≤ workers)
      (hmake : ∀ w, makeRWorkers workers num
        (fun lo count => RSVTrafficGen.make msg cfg crypto type count lo) w = some (gens w))
      (hrun : (GenKind.rsv cfg.mode type).Run gens s)
      (hsent : ∀ (w : Fin workers.toNat) (idx : UInt32),
        let slice := iedSlice num workers (UInt32.ofNat w)
        idx < slice.2 - slice.1 →
        sent (slice.1.toNat + idx.toNat) = (s.frames w idx, (gens w).m_skeletonSize)) :
      SvTraffic conf crypto type true num.toNat sent

variable {conf : RxConfig} {crypto : Crypto} {num : ℕ} {sent : ℕ → List Mem × ℕ}

/-- Whatever the kind of the GOOSE streams, they are registered one for one, and every frame is
heard. -/
lemma GooseTraffic.heard (hlaw : crypto.Lawful) (h : GooseTraffic conf crypto num sent) :
    ∃ (proto : BusProto) (spduNumber : ℕ → Option UInt32) (src : ℕ → GooseSource),
      (proto = .BUS_PROTO_GOOSE ∨ proto = .BUS_PROTO_R_GOOSE) ∧
      (spduNumber = (fun _ => none) ∨ spduNumber = spduOf) ∧
      conf.allGoose = (List.range num).map src ∧ num ≤ 65535 ∧ OneKind conf.gooseCounts ∧
      (∀ i, (src i).counts = ((0, 0), (0, 0))) ∧
      Heard (fun fuel => gooseHit fuel crypto (init conf).m_rMode) (init conf).m_gooseMap proto
        GooseSource.counts StGap spduNumber UInt32.ofNat num sent := by
  cases h with
  | idle hconf =>
    have hcounts := hconf
    simp only [RxConfig.gooseCounts, List.cons.injEq, and_true] at hcounts
    refine ⟨.BUS_PROTO_GOOSE, fun _ => none, conf.l2Goose, .inl rfl, .inl rfl, ?_, by decide, ?_,
      fun _ => rfl, fun i hi => absurd hi (Nat.not_lt_zero i),
      fun i hi => absurd hi (Nat.not_lt_zero i)⟩
    · simp [RxConfig.allGoose, hcounts]
    · rw [hconf]
      decide
  | @l2 msg k v num s hk hsize hmac hconf hnum hrun =>
    refine ⟨.BUS_PROTO_GOOSE, fun _ => none, conf.l2Goose, .inl rfl, .inl rfl, hconf.allGoose,
      hnum, ?_, fun _ => rfl, ?_, ?_⟩
    · rw [RxConfig.gooseCounts, hconf.only, hconf.num]
      exact ⟨by simp; omega, by simp⟩
    · intro i hi j f frame hf hdel
      obtain ⟨hnat, hlt⟩ := toNat_ofNat_of_lt hi
      have hfinds := finds_goose crypto hk hsize hmac hconf hnum hrun hlt hf hdel
      rwa [hnat] at hfinds
    · intro i hi j f frame hf hdel
      have hnumbered : Numbered GenKind.goose (fun _ : Unit => .make msg num) (fun _ => num)
          (fun fuel => gooseHit fuel crypto (init conf).m_rMode) GooseSource.counts StGap
          (fun _ => none) UInt32.ofNat := numbered_goose hk hsize
      exact hnumbered s hrun () _ (toNat_ofNat_of_lt hi).2 j f frame hf hdel
  | @routable msg k v cfg num workers gens s sent hk hport hconf hnum hworkers hmake hrun hsent =>
    have hmode : (init conf).m_rMode = cfg.mode := (mode_init conf).trans hconf.mode
    let slice := fun w : Fin workers.toNat => iedSlice num workers (UInt32.ofNat w)
    have hmake : ∀ w, RGooseTrafficGen.make msg cfg crypto ((slice w).2 - (slice w).1) (slice w).1 =
      some (gens w) := hmake
    refine ⟨.BUS_PROTO_R_GOOSE, spduOf, conf.rGoose, .inr rfl, .inr rfl, hconf.allGoose,
      hnum, ?_, fun _ => rfl, ?_, ?_⟩
    · rw [RxConfig.gooseCounts, hconf.only, hconf.num]
      exact ⟨by simp; omega, by simp⟩
    · intro i hi j f frame hf hdel
      obtain ⟨w, idx, hidx, rfl⟩ := exists_iedSlice hworkers hi
      rw [hsent w idx hidx] at hf hdel
      exact finds_rgoose (fun w => (slice w).1) hlaw hk hport hconf hnum hmake hrun hidx hi hf
        hdel.toReaches
    · intro i hi j f frame hf hdel
      obtain ⟨w, idx, hidx, rfl⟩ := exists_iedSlice hworkers hi
      rw [hsent w idx hidx] at hf hdel
      rw [hmode]
      exact numbered_rgoose cfg hlaw hk hport hmake s hrun w idx hidx j f frame hf hdel

/-- Likewise the SV streams. -/
lemma SvTraffic.heard {type : SvType} {routable : Bool} (hlaw : crypto.Lawful)
    (h : SvTraffic conf crypto type routable num sent) :
    ∃ (proto : BusProto) (src : ℕ → SVStreamSource),
      (proto = .BUS_PROTO_SV ∨ proto = .BUS_PROTO_R_SV) ∧
      conf.allSV = (List.range num).map src ∧ num ≤ 65535 ∧ OneKind conf.svCounts ∧
      (∀ i, (src i).counts = ((0, 0), (0, 0))) ∧
      Heard (fun fuel => svHit fuel crypto (init conf).m_rMode) (init conf).m_svMap proto
        SVStreamSource.counts (SmpGap (UInt32.ofNat type.asduNum))
        (if routable then spduOf else fun _ => none) (smpValue type) num sent := by
  cases h with
  | idle hconf =>
    have hcounts := hconf
    simp only [RxConfig.svCounts, List.cons.injEq, and_true] at hcounts
    refine ⟨.BUS_PROTO_SV, RxConfig.sv80, .inl rfl, ?_, by decide, ?_, fun _ => rfl,
      fun i hi => absurd hi (Nat.not_lt_zero i), fun i hi => absurd hi (Nat.not_lt_zero i)⟩
    · simp [RxConfig.allSV, hcounts]
    · rw [hconf]
      decide
  | @l2 msg k sID cnt num s hk hsID hcnt hasdus hmac hconf hnum hrun =>
    refine ⟨.BUS_PROTO_SV, l2Sv type, .inl rfl, hconf.allSV, by omega, ?_, ?_, ?_, ?_⟩
    · rw [hconf.counts]
      cases type <;> exact ⟨by simp; omega, by simp⟩
    · intro i
      rw [l2Sv_eq]
      rfl
    · intro i hi j f frame hf hdel
      obtain ⟨hnat, hlt⟩ := toNat_ofNat_of_lt hi
      have hfinds := finds_sv crypto hk hsID hcnt hasdus hmac hconf hnum hrun hlt hf
        hdel
      rwa [hnat] at hfinds
    · intro i hi j f frame hf hdel
      have hnumbered : Numbered (GenKind.sv type) (fun _ : Unit => .make msg num type)
          (fun _ => num) (fun fuel => svHit fuel crypto (init conf).m_rMode) SVStreamSource.counts
          (SmpGap (UInt32.ofNat type.asduNum)) (fun _ => none) (smpValue type) :=
        numbered_sv hk hsID hcnt hasdus
      exact hnumbered s hrun () _ (toNat_ofNat_of_lt hi).2 j f frame hf hdel
  | @routable msg k sID cnt cfg num workers gens s sent hk hsID hcnt hasdus hport hconf hnum
      hworkers hmake hrun hsent =>
    have hmode : (init conf).m_rMode = cfg.mode := (mode_init conf).trans hconf.mode
    let slice := fun w : Fin workers.toNat => iedSlice num workers (UInt32.ofNat w)
    have hmake : ∀ w, RSVTrafficGen.make msg cfg crypto type ((slice w).2 - (slice w).1)
      (slice w).1 = some (gens w) := hmake
    refine ⟨.BUS_PROTO_R_SV, conf.rSv type, .inr rfl, hconf.allSV, by omega, ?_, ?_, ?_, ?_⟩
    · rw [hconf.counts]
      cases type <;> exact ⟨by simp; omega, by simp⟩
    · intro i
      rw [RxConfig.rSv_eq]
      rfl
    · intro i hi j f frame hf hdel
      obtain ⟨w, idx, hidx, rfl⟩ := exists_iedSlice hworkers hi
      rw [hsent w idx hidx] at hf hdel
      exact finds_rsv (fun w => (slice w).1) hlaw hk hsID hcnt hasdus hport hconf hnum hmake hrun
        hidx hi hf hdel.toReaches
    · intro i hi j f frame hf hdel
      obtain ⟨w, idx, hidx, rfl⟩ := exists_iedSlice hworkers hi
      rw [hsent w idx hidx] at hf hdel
      rw [hmode]
      exact numbered_rsv cfg hlaw hk hsID hcnt hasdus hport hmake s hrun w idx hidx j f frame hf
        hdel

end Sent

/-! ### The totals -/

section Totals

/-- A loss the session notices: the SPDU number in front of it is not zero, the value of a source
that has not seen any. A loss is the number of the frame behind it and how many were lost. -/
def NoticedBySession (r : ℕ × ℕ) : Prop := UInt32.ofNat (r.1 - r.2) ≠ 0

instance : DecidablePred NoticedBySession := fun r =>
  inferInstanceAs (Decidable (UInt32.ofNat (r.1 - r.2) ≠ 0))

variable {mask : List Bool}

/-- The session errors of a routable stream. -/
lemma errors_spduNumber (h : ∀ r ∈ Losses.runs mask, r.2 < 2 ^ 32) :
    Losses.errors SpduGaps 0 ((Losses.arriving 0 mask).filterMap spduOf) =
      (Losses.runs mask).countP (NoticedBySession ·) := by
  rw [show spduOf = some ∘ fun j => UInt32.ofNat (j + 1) from rfl, List.filterMap_eq_map]
  apply Losses.errors_eq_countP_runs UInt32.ofNat NoticedBySession
  intro g hg
  have hlt : g.2 < 2 ^ 32 := by
    by_cases hzero : g.2 = 0
    · omega
    · exact h g (Losses.mem_runs.mpr ⟨hg, hzero⟩)
  have hle := Losses.lost_le le_rfl g hg
  have hnext : UInt32.ofNat (g.1 + 1) = UInt32.ofNat (g.1 - g.2) + 1 ↔ g.2 = 0 := by
    have hsucc : UInt32.ofNat (g.1 - g.2) + 1 = UInt32.ofNat (g.1 - g.2 + 1) :=
      (UInt32.ofNat_add _ 1).symm
    rw [hsucc, ← UInt32.toNat_inj, UInt32.toNat_ofNat', UInt32.toNat_ofNat']
    omega
  show UInt32.ofNat (g.1 - g.2) ≠ 0 ∧ UInt32.ofNat (g.1 + 1) ≠ UInt32.ofNat (g.1 - g.2) + 1 ↔ _
  rw [ne_eq (UInt32.ofNat (g.1 + 1)), hnext]
  rfl

lemma filterMap_range_getElem? {S : Type} (l : List S) :
    (List.range l.length).filterMap (fun i => l[i]?) = l := by
  induction l using List.reverseRecOn with
  | nil => rfl
  | append_singleton l x ih =>
    have hfront : (List.range l.length).filterMap (fun i => (l ++ [x])[i]?) = l := by
      refine Eq.trans (List.filterMap_congr ?_) ih
      intro i hi
      exact List.getElem?_append_left (List.mem_range.mp hi)
    rw [List.length_append, List.length_singleton, List.range_succ, List.filterMap_append, hfront]
    simp

/-- The session never notices more than the losses. -/
lemma errors_session_le {spduNumber : ℕ → Option UInt32}
    (hspdu : spduNumber = (fun _ => none) ∨ spduNumber = spduOf) :
    Losses.errors SpduGaps 0 ((Losses.arriving 0 mask).filterMap spduNumber) ≤
      (Losses.runs mask).length := by
  rcases hspdu with rfl | rfl
  · rw [List.filterMap_none]
    exact Nat.zero_le _
  · rw [show spduOf = some ∘ fun j => UInt32.ofNat (j + 1) from rfl, List.filterMap_eq_map]
    exact Losses.errors_le_length_runs UInt32.ofNat not_spduGaps

/-- The entries of a container lead to all of the sources, in their order. -/
lemma filterMap_zipIdx {K S : Type} {keys : List K} {sources : List S}
    (h : sources.length = keys.length) :
    keys.zipIdx.filterMap (fun entry => sources[entry.2]?) = sources := by
  have hentries : keys.zipIdx.filterMap (fun entry => sources[entry.2]?) =
      (List.range sources.length).filterMap fun i => sources[i]? := by
    rw [h, List.range_eq_range', ← List.zipIdx_map_snd 0 keys, List.filterMap_map]
    rfl
  rw [hentries, filterMap_range_getElem?]

/-- The sum `CountGaps` makes, over numbered sources. -/
lemma sum_gaps {S : Type} (seq spdu : S → UInt32) {n : ℕ} (hn : n ≤ 65535) (src : ℕ → S)
    (gaps : ℕ → ℕ) (h : ∀ i < n, max (seq (src i)).toNat (spdu (src i)).toNat = gaps i) :
    (((List.range n).map src).foldl
      (fun sum src => sum + (max (seq src) (spdu src)).toUInt64) 0).toNat =
      ((List.range n).map gaps).sum := by
  rw [toNat_foldl_counts seq spdu _ 0 (by simp; omega), List.map_map]
  refine (Nat.zero_add _).trans (congrArg List.sum (List.map_congr_left ?_))
  intro i hi
  exact h i (List.mem_range.mp hi)

/-- Numbered sources, each changed in its own way. -/
lemma mapIdx_map_range {S : Type} (src : ℕ → S) (f : ℕ → S → S) (n : ℕ) :
    ((List.range n).map src).mapIdx f = (List.range n).map fun i => f i (src i) := by
  apply List.ext_getElem?
  intro i
  rw [List.getElem?_mapIdx, List.getElem?_map, List.getElem?_map]
  by_cases hi : i < n
  · rw [List.getElem?_range hi]
    rfl
  · rw [List.getElem?_eq_none (by simpa using hi)]
    rfl

variable {conf : RxConfig} {fuel : ℕ} {crypto : Crypto} {arrivals : List ((ℕ ⊕ ℕ) × RxFrame)}
  {num : ℕ}

lemma counter_init (conf : RxConfig) (c : Counter) : (init conf).counter c = 0 := by
  have hgoose : ∀ {src : ℕ → GooseSource} {l : List ℕ} {app : RxApplication},
      (l.foldl (fun app i => app.registerGoose (src i)) app).counter c = app.counter c :=
    Fold.view_foldl_of_fixed (RxApplication.counter · c)
      (fun app h i => h ▸ by cases c <;> rfl) rfl
  have hsv : ∀ {src : ℕ → SVStreamSource} {l : List ℕ} {app : RxApplication},
      (l.foldl (fun app i => app.registerSV (src i)) app).counter c = app.counter c :=
    Fold.view_foldl_of_fixed (RxApplication.counter · c)
      (fun app h i => h ▸ by cases c <;> rfl) rfl
  have hnew : RxApplication.counter { m_rMode := conf.m_rMode } c = 0 := by cases c <;> rfl
  exact hsv.trans (hsv.trans (hgoose.trans (hsv.trans (hsv.trans (hgoose.trans hnew)))))

lemma mem_arrivalsOf {κ : Type} [DecidableEq κ] {arrivals : List (κ × RxFrame)} {key : κ}
    {frame : RxFrame} (h : (key, frame) ∈ arrivals) : frame ∈ arrivalsOf key arrivals :=
  List.mem_map.mpr ⟨(key, frame), List.mem_filter.mpr ⟨h, decide_eq_true rfl⟩, rfl⟩

/-- The sources of the GOOSE streams after the traffic. -/
lemma gooseStreams_afterTraffic {src : ℕ → GooseSource}
    (hall : conf.allGoose = (List.range num).map src) (hone : OneKind conf.gooseCounts) :
    ((init conf).afterTraffic fuel crypto arrivals).gooseStreams = (List.range num).map fun i =>
      (arrivalsOf (.inl i) arrivals).foldl (deliver (gooseHit fuel crypto (init conf).m_rMode))
        (src i) := by
  obtain ⟨hsources, -, hmap, -⟩ := registered_init conf
  have hnodup : ((conf.allGoose.map GooseSource.getPassport).map HasAppId.appid).Nodup := by
    rw [conf.appids_allGoose, nodup_flatMap_appidsOf]
    exact hone
  have hlen : (conf.allGoose.map GooseSource.getPassport).length ≤ SIZE_MAX := by
    rw [List.length_map]
    exact conf.length_allGoose_le
  have hvalues := (AppIdContainer.assignAll_of_nodup hnodup hlen).1
  rw [← hmap] at hvalues
  show (init conf).m_gooseMap.m_values.filterMap _ = _
  rw [hvalues]
  refine (filterMap_zipIdx ?_).trans ?_
  · simp [RxApplication.afterTraffic, hsources]
  · simp only [RxApplication.afterTraffic, hsources, hall, mapIdx_map_range]

/-- The sources of the SV streams after the traffic. -/
lemma svStreams_afterTraffic {src : ℕ → SVStreamSource}
    (hall : conf.allSV = (List.range num).map src) (hone : OneKind conf.svCounts) :
    ((init conf).afterTraffic fuel crypto arrivals).svStreams = (List.range num).map fun i =>
      (arrivalsOf (.inr i) arrivals).foldl (deliver (svHit fuel crypto (init conf).m_rMode))
        (src i) := by
  obtain ⟨-, hsources, -, hmap⟩ := registered_init conf
  have hnodup : ((conf.allSV.map SVStreamSource.getPassport).map HasAppId.appid).Nodup := by
    rw [conf.appids_allSV, nodup_flatMap_appidsOf]
    exact hone
  have hlen : (conf.allSV.map SVStreamSource.getPassport).length ≤ SIZE_MAX := by
    rw [List.length_map]
    exact conf.length_allSV_le
  have hvalues := (AppIdContainer.assignAll_of_nodup hnodup hlen).1
  rw [← hmap] at hvalues
  show (init conf).m_svMap.m_values.filterMap _ = _
  rw [hvalues]
  refine (filterMap_zipIdx ?_).trans ?_
  · simp [RxApplication.afterTraffic, hsources]
  · simp only [RxApplication.afterTraffic, hsources, hall, mapIdx_map_range]

end Totals

/-! ### The whole run -/

/-- The losses in an SV stream that end up in `CountGaps`: those the sample counter or the session
notices, whichever are more. -/
def SvType.gapsOf (type : SvType) (routable : Bool) (mask : List Bool) : ℕ :=
  max ((Losses.runs mask).countP (type.Notices ·))
    (if routable then (Losses.runs mask).countP (NoticedBySession ·) else 0)

/-- What a GOOSE source has counted after its frames that were not lost. -/
def gooseErrors (spduNumber : ℕ → Option UInt32) (mask : List Bool) : ℕ :=
  max (UInt32.ofNat (Losses.errors StGap (UInt32.ofNat 0)
    ((Losses.arriving 0 mask).map fun j => UInt32.ofNat (j + 1)))).toNat
    (UInt32.ofNat (Losses.errors SpduGaps 0 ((Losses.arriving 0 mask).filterMap spduNumber))).toNat

/-- What an SV source has counted. -/
def SvType.errors (type : SvType) (routable : Bool) (mask : List Bool) : ℕ :=
  max (UInt32.ofNat (Losses.errors (SmpGap (UInt32.ofNat type.asduNum)) (smpValue type 0)
    ((Losses.arriving 0 mask).map fun j => smpValue type (j + 1)))).toNat
    (UInt32.ofNat (Losses.errors SpduGaps 0 ((Losses.arriving 0 mask).filterMap
      (if routable then spduOf else fun _ => none)))).toNat

/-- As long as its losses can be told apart, a GOOSE source counts each of them. -/
lemma gooseErrors_eq {spduNumber : ℕ → Option UInt32} {mask : List Bool}
    (hspdu : spduNumber = (fun _ => none) ∨ spduNumber = spduOf)
    (hlen : (Losses.runs mask).length < 2 ^ 32)
    (hshort : ∀ r ∈ Losses.runs mask, r.2 < 2 ^ 32 - 1) :
    gooseErrors spduNumber mask = (Losses.runs mask).length := by
  have hle := @errors_session_le mask _ hspdu
  have hseq : (UInt32.ofNat (Losses.errors StGap (UInt32.ofNat 0)
      ((Losses.arriving 0 mask).map fun j => UInt32.ofNat (j + 1)))).toNat =
      (Losses.runs mask).length := by
    rw [errors_stNum hshort]
    exact UInt32.toNat_ofNat_of_lt' hlen
  rw [gooseErrors, hseq, UInt32.toNat_ofNat_of_lt' (hle.trans_lt hlen)]
  exact max_eq_left hle

/-- An SV source counts those that the sample counter or the session notices. -/
lemma SvType.errors_eq {type : SvType} {mask : List Bool} (routable : Bool)
    (hlen : (Losses.runs mask).length < 2 ^ 32)
    (hshort : ∀ r ∈ Losses.runs mask, r.2 < type.framesPerSecond) :
    type.errors routable mask = type.gapsOf routable mask := by
  have hsecond : type.framesPerSecond < 2 ^ 32 := by cases type <;> decide
  have hsession : (UInt32.ofNat (Losses.errors SpduGaps 0 ((Losses.arriving 0 mask).filterMap
      (if routable then spduOf else fun _ => none)))).toNat =
      if routable then (Losses.runs mask).countP (NoticedBySession ·) else 0 := by
    cases routable with
    | false => simp [Losses.errors]
    | true =>
      rw [if_pos rfl, if_pos rfl, errors_spduNumber fun r hr => (hshort r hr).trans hsecond]
      exact UInt32.toNat_ofNat_of_lt' (List.countP_le_length.trans_lt hlen)
  rw [SvType.errors, hsession, errors_smpCnt hshort,
    UInt32.toNat_ofNat_of_lt' (List.countP_le_length.trans_lt hlen)]
  rfl

lemma toNat_ofNat_le (n : ℕ) : (UInt32.ofNat n).toNat ≤ n := by
  rw [UInt32.toNat_ofNat']
  exact Nat.mod_le n _

/-- However long the losses are, a source never counts more of them than there are. -/
lemma gooseErrors_le {spduNumber : ℕ → Option UInt32} {mask : List Bool}
    (hspdu : spduNumber = (fun _ => none) ∨ spduNumber = spduOf) :
    gooseErrors spduNumber mask ≤ (Losses.runs mask).length := by
  apply max_le
  · exact (toNat_ofNat_le _).trans (Losses.errors_le_length_runs UInt32.ofNat not_stGap)
  · exact (toNat_ofNat_le _).trans (errors_session_le hspdu)

lemma SvType.errors_le {type : SvType} {routable : Bool} {mask : List Bool} :
    type.errors routable mask ≤ (Losses.runs mask).length := by
  apply max_le
  · exact (toNat_ofNat_le _).trans (Losses.errors_le_length_runs (smpValue type) not_smpGap)
  · apply (toNat_ofNat_le _).trans
    cases routable with
    | false => exact errors_session_le (.inl rfl)
    | true => exact errors_session_le (.inr rfl)

/-- What the receiver has counted, with the errors of each source as its own frames make them. -/
lemma totals_of_traffic {conf : RxConfig} {crypto : Crypto} (hlaw : crypto.Lawful)
    {num numSv : ℕ} {sent sentSv : ℕ → List Mem × ℕ} {type : SvType} {routable : Bool}
    (hgoose : GooseTraffic conf crypto num sent)
    (hsv : SvTraffic conf crypto type routable numSv sentSv) {mask maskSv : ℕ → List Bool}
    {arrivals : List ((ℕ ⊕ ℕ) × RxFrame)}
    (hkeys : ∀ a ∈ arrivals, a.1.elim (· < num) (· < numSv))
    (hsurvive : ∀ i < num,
      Survive (sent i).1 (sent i).2 (mask i) (arrivalsOf (.inl i) arrivals))
    (hsurviveSv : ∀ i < numSv,
      Survive (sentSv i).1 (sentSv i).2 (maskSv i) (arrivalsOf (.inr i) arrivals)) :
    ∃ spduNumber, (spduNumber = (fun _ => none) ∨ spduNumber = spduOf) ∧
      ∃ f, ∀ fuel, f ≤ fuel → ∀ bursts : List (List RxFrame),
        bursts.flatten = arrivals.map Prod.snd →
        let app := runBursts fuel crypto (init conf) bursts
        app.m_rxGoosePktCnt = UInt64.ofNat (arrivals.countP (·.1.isLeft)) ∧
        app.m_rxSVPktCnt = UInt64.ofNat (arrivals.countP (·.1.isRight)) ∧
        (∀ c, c ≠ .m_rxGoosePktCnt → c ≠ .m_rxSVPktCnt → app.counter c = 0) ∧
        app.countGaps.1.toNat =
          ((List.range num).map fun i => gooseErrors spduNumber (mask i)).sum ∧
        app.countGaps.2.toNat =
          ((List.range numSv).map fun i => type.errors routable (maskSv i)).sum := by
  obtain ⟨proto, spduNumber, src, hproto, hspdu, hall, hnum, hone, hsrc, hheard⟩ :=
    hgoose.heard hlaw
  obtain ⟨protoSv, srcSv, hprotoSv, hallSv, hnumSv, honeSv, hsrcSv, hheardSv⟩ := hsv.heard hlaw
  obtain ⟨f₁, hlooked⟩ := hheard.looked_up hsurvive
  obtain ⟨f₂, hlookedSv⟩ := hheardSv.looked_up hsurviveSv
  obtain ⟨f₃, hcounted⟩ := hheard.counted hsurvive hsrc
  obtain ⟨f₄, hcountedSv⟩ := hheardSv.counted hsurviveSv hsrcSv
  refine ⟨spduNumber, hspdu, max (max f₁ f₂) (max f₃ f₄), fun fuel hfuel bursts hflatten => ?_⟩
  simp only [max_le_iff] at hfuel
  obtain ⟨⟨h₁, h₂⟩, h₃, h₄⟩ := hfuel
  have hlookedUp : ∀ a ∈ arrivals, LookedUp fuel crypto (init conf) a := by
    rintro ⟨i | i, frame⟩ ha
    · exact hlooked fuel h₁ i (hkeys _ ha) frame (mem_arrivalsOf ha)
    · exact hlookedSv fuel h₂ i (hkeys _ ha) frame (mem_arrivalsOf ha)
  have hprotos : ∀ frame ∈ bursts.flatten, protoOf frame = proto ∨ protoOf frame = protoSv := by
    rw [hflatten]
    intro frame hframe
    obtain ⟨⟨i | i, frame⟩, ha, rfl⟩ := List.mem_map.mp hframe
    · exact .inl (hheard.finds_of_survive hsurvive i (hkeys _ ha) frame (mem_arrivalsOf ha)).proto
    · exact .inr
        (hheardSv.finds_of_survive hsurviveSv i (hkeys _ ha) frame (mem_arrivalsOf ha)).proto
  have happ : runBursts fuel crypto (init conf) bursts =
      (init conf).afterTraffic fuel crypto arrivals := by
    rw [runBursts_traffic hproto hprotoSv hprotos, hflatten, foldl_traffic hlookedUp]
  dsimp only
  rw [happ]
  refine ⟨?_, ?_, ?_, ?_, ?_⟩
  · have hzero := counter_init conf .m_rxGoosePktCnt
    exact (congrArg (· + _) hzero).trans (UInt64.zero_add _)
  · have hzero := counter_init conf .m_rxSVPktCnt
    exact (congrArg (· + _) hzero).trans (UInt64.zero_add _)
  · intro c hc hc'
    rw [← counter_init conf c]
    cases c <;> first | rfl | exact absurd rfl hc | exact absurd rfl hc'
  · rw [RxApplication.countGaps, gooseStreams_afterTraffic hall hone]
    apply sum_gaps _ _ hnum
    intro i hi
    obtain ⟨hseq, hsession⟩ := hcounted fuel h₃ i hi
    exact congrArg₂ max (congrArg UInt32.toNat hseq) (congrArg UInt32.toNat hsession)
  · rw [RxApplication.countGaps, svStreams_afterTraffic hallSv honeSv]
    apply sum_gaps _ _ hnumSv
    intro i hi
    obtain ⟨hseq, hsession⟩ := hcountedSv fuel h₄ i hi
    exact congrArg₂ max (congrArg UInt32.toNat hseq) (congrArg UInt32.toNat hsession)

/-- Whatever the streams are, which of their frames are lost, how the streams interleave and how the
frames are split into bursts: every frame that has arrived is counted as one of its streams and as
nothing else. The totals of `CountGaps` are the losses, those of SV as far as they are noticed, if
no loss is so long that a number comes round. -/
theorem traffic_accounted {conf : RxConfig} {crypto : Crypto} (hlaw : crypto.Lawful)
    {num numSv : ℕ} {sent sentSv : ℕ → List Mem × ℕ} {type : SvType} {routable : Bool}
    (hgoose : GooseTraffic conf crypto num sent)
    (hsv : SvTraffic conf crypto type routable numSv sentSv) (mask maskSv : ℕ → List Bool)
    (arrivals : List ((ℕ ⊕ ℕ) × RxFrame))
    (hkeys : ∀ a ∈ arrivals, a.1.elim (· < num) (· < numSv))
    (hsurvive : ∀ i < num,
      Survive (sent i).1 (sent i).2 (mask i) (arrivalsOf (.inl i) arrivals))
    (hsurviveSv : ∀ i < numSv,
      Survive (sentSv i).1 (sentSv i).2 (maskSv i) (arrivalsOf (.inr i) arrivals)) :
    ∃ f, ∀ fuel, f ≤ fuel → ∀ bursts : List (List RxFrame),
      bursts.flatten = arrivals.map Prod.snd →
      let app := runBursts fuel crypto (init conf) bursts
      app.m_rxGoosePktCnt = UInt64.ofNat (arrivals.countP (·.1.isLeft)) ∧
      app.m_rxSVPktCnt = UInt64.ofNat (arrivals.countP (·.1.isRight)) ∧
      (∀ c, c ≠ .m_rxGoosePktCnt → c ≠ .m_rxSVPktCnt → app.counter c = 0) ∧
      ((∀ i < num, (Losses.runs (mask i)).length < 2 ^ 32 ∧
          ∀ r ∈ Losses.runs (mask i), r.2 < 2 ^ 32 - 1) →
        app.countGaps.1.toNat =
          ((List.range num).map fun i => (Losses.runs (mask i)).length).sum) ∧
      ((∀ i < numSv, (Losses.runs (maskSv i)).length < 2 ^ 32 ∧
          ∀ r ∈ Losses.runs (maskSv i), r.2 < type.framesPerSecond) →
        app.countGaps.2.toNat =
          ((List.range numSv).map fun i => type.gapsOf routable (maskSv i)).sum) := by
  obtain ⟨spduNumber, hspdu, f, hf⟩ :=
    totals_of_traffic hlaw hgoose hsv hkeys hsurvive hsurviveSv
  refine ⟨f, fun fuel hfuel bursts hflatten => ?_⟩
  obtain ⟨hrx, hrxSv, hothers, hgaps, hgapsSv⟩ := hf fuel hfuel bursts hflatten
  refine ⟨hrx, hrxSv, hothers, fun hruns => hgaps.trans ?_, fun hruns => hgapsSv.trans ?_⟩
  · apply congrArg List.sum
    apply List.map_congr_left
    intro i hi
    obtain ⟨hlen, hshort⟩ := hruns i (List.mem_range.mp hi)
    exact gooseErrors_eq hspdu hlen hshort
  · apply congrArg List.sum
    apply List.map_congr_left
    intro i hi
    obtain ⟨hlen, hshort⟩ := hruns i (List.mem_range.mp hi)
    exact SvType.errors_eq routable hlen hshort

/-- A GOOSE stream and an SV stream of three frames. The second frame of each is lost. -/
theorem traffic_accounted_sample :
    let goose := GenKind.goose.callAgain (fun _ : Unit => .make sampleGooseMessage 1)
      (fun _ => (GooseTrafficGen.make sampleGooseMessage 1).m_skeleton) () 0 3
    let sv := (GenKind.sv .SV80).callAgain (fun _ : Unit => .make (sampleSvMessage .SV80) 1 .SV80)
      (fun _ => (SVTrafficGen.make (sampleSvMessage .SV80) 1 .SV80).m_skeleton) () 0 3
    let mask := [true, false, true]
    let bursts := [receivedOf (sv.frames () 0) 124 mask, receivedOf (goose.frames () 0) 152 mask]
    ∃ f, ∀ fuel, f ≤ fuel →
      let app := runBursts fuel sampleRunCrypto
        (init { m_confGooseNum := 1, m_confSV80Num := 1, m_gooseEntries := 2 }) bursts
      app.m_rxGoosePktCnt = 2 ∧ app.m_rxSVPktCnt = 2 ∧
        app.countGaps.1.toNat = 1 ∧ app.countGaps.2.toNat = 1 := by
  intro goose sv mask bursts
  let arrivals : List ((ℕ ⊕ ℕ) × RxFrame) :=
    (receivedOf (sv.frames () 0) 124 mask).map (Prod.mk (.inr 0)) ++
      (receivedOf (goose.frames () 0) 152 mask).map (Prod.mk (.inl 0))
  have hgoose : GooseTraffic { m_confGooseNum := 1, m_confSV80Num := 1, m_gooseEntries := 2 }
      sampleRunCrypto (1 : UInt32).toNat
      fun i => (goose.frames () (UInt32.ofNat i), sampleGooseMessage.size) := by
    apply GooseTraffic.l2 describes_sampleGooseMessage (by decide +kernel) rfl ⟨rfl, rfl, rfl⟩
    · decide
    · exact GenKind.run_callAgain (fun _ _ => rfl) (by decide +kernel) 3
  have hsv : SvTraffic { m_confGooseNum := 1, m_confSV80Num := 1, m_gooseEntries := 2 }
      sampleRunCrypto .SV80 false (1 : UInt32).toNat
      fun i => (sv.frames () (UInt32.ofNat i), (sampleSvMessage .SV80).size) := by
    apply SvTraffic.l2 (describes_sampleSvMessage .SV80) rfl (fun _ => rfl) List.length_replicate
      rfl ⟨rfl⟩
    · decide
    · exact GenKind.run_callAgain (fun _ _ => rfl) (by decide +kernel) 3
  have hlen : (goose.frames () 0).length = 3 := GenKind.length_callAgain 3
  have hlenSv : (sv.frames () 0).length = 3 := GenKind.length_callAgain 3
  have hmask : (Losses.runs mask).length < 2 ^ 32 ∧ ∀ r ∈ Losses.runs mask, r.2 < 2 := by decide
  obtain ⟨f, hf⟩ := traffic_accounted lawful_sampleRunCrypto hgoose hsv (fun _ => mask)
    (fun _ => mask) arrivals (by simp [arrivals])
    (fun i hi => by
      obtain rfl : i = 0 := Nat.lt_one_iff.mp hi
      have harrivals : arrivalsOf (.inl 0) arrivals = receivedOf (goose.frames () 0) 152 mask := by
        simp [arrivalsOf, arrivals, List.filter_map, Function.comp_def]
      rw [harrivals]
      exact survive_receivedOf hlen.ge (by decide))
    (fun i hi => by
      obtain rfl : i = 0 := Nat.lt_one_iff.mp hi
      have harrivals : arrivalsOf (.inr 0) arrivals = receivedOf (sv.frames () 0) 124 mask := by
        simp [arrivalsOf, arrivals, List.filter_map, Function.comp_def]
      rw [harrivals]
      exact survive_receivedOf hlenSv.ge (by decide))
  refine ⟨f, fun fuel hfuel => ?_⟩
  obtain ⟨hrx, hrxSv, -, hgaps, hgapsSv⟩ := hf fuel hfuel bursts (by
    simp [bursts, arrivals, Function.comp_def])
  refine ⟨hrx.trans ?_, hrxSv.trans ?_, (hgaps fun _ _ => ?_).trans ?_,
    (hgapsSv fun _ _ => ?_).trans ?_⟩
  · decide +kernel
  · decide +kernel
  · exact ⟨hmask.1, fun r hr => (hmask.2 r hr).trans (by decide)⟩
  · decide +kernel
  · exact ⟨hmask.1, fun r hr => (hmask.2 r hr).trans (by decide)⟩
  · decide +kernel

end ProcessBus
