import ProcessBus.Generator.Counters
import ProcessBus.Generator.Runs

/-!
# Nonces

Under AES-GCM the IV of a frame is made of the key and of the SPDU number, and each stream counts
its own frames. So the IV says how many frames the stream has sent, and no more: streams that have
sent equally many use the same one under the same key.
-/

namespace ProcessBus

open RSess RFrame

/-- The IV of a frame. -/
def ivOf (frame : Mem) : List UInt8 := frame.slice (OFF_UDP_PAYLOAD + OFF_IV) IV_LEN_GCM.toNat

lemma deriveIV_inj {keyId n n' : UInt32} : deriveIV keyId n = deriveIV keyId n' ↔ n = n' := by
  refine ⟨fun h => ?_, fun h => h ▸ rfl⟩
  have hnum := congrArg beNat (List.append_cancel_left h)
  rw [beNat_beBytes n.toNat_lt, beNat_beBytes n'.toNat_lt] at hnum
  exact UInt32.toNat_inj.mp hnum

namespace RoutableGen

variable {g g' : RoutableGen} {m : Mem} {stream spduNumber : UInt32}
  {fields : ℕ → List Mem.Patch} {F : ℕ → ℕ → Prop} {params : BuildParams}

/-- `seal` derives the IV from the header in front of it. -/
lemma ivOf_amendFrame (hb : g.Built .SEC_GCM) (hs : g.SameRun g')
    (hfields : ∀ r i, Mem.Covers (fields r) i → F r i) (hF : ∀ r i, F r i → r ≤ i)
    (hm : Fits .SEC_GCM F g m) (hmode : params.mode = .SEC_GCM)
    (hhead : g.m_skeleton.Holds OFF_UDP_PAYLOAD (headBytes params))
    (hlength : g.m_skeleton.Holds (OFF_UDP_PAYLOAD + payloadHdrOffset (ivLength .SEC_GCM))
      (lengthBytes params)) :
    ivOf (g'.amendFrame .SEC_GCM m stream spduNumber fields).2 =
      deriveIV params.keyId spduNumber := by
  obtain ⟨hhead', hlength'⟩ := holds_head_amended stream _ hb hs hfields hF hm hhead hlength
  rw [amendFrame_snd]
  generalize g'.amended .SEC_GCM m stream spduNumber fields = m' at hhead' hlength'
  have hlay : SealLayout .SEC_GCM OFF_UDP_PAYLOAD params.payloadLength.toNat m' :=
    ⟨(ivLengthAt_of_holds hhead').trans (by rw [hmode]),
      beNat_of_holds hlength' params.payloadLength.toNat_lt⟩
  obtain ⟨_, _, hspdu, _, _, _, hkey, _⟩ := holds_headBytes.mp hhead'
  have hslice : ∀ a, a + 4 ≤ OFF_IV → (withTrailerHead m'
      (elemsEnd .SEC_GCM OFF_UDP_PAYLOAD params.payloadLength.toNat)).slice
        (OFF_UDP_PAYLOAD + a) 4 = m'.slice (OFF_UDP_PAYLOAD + a) 4 := fun a ha => by
    refine Mem.slice_congr fun i _ hi => withTrailerHead_of_lt ?_
    simp only [elemsEnd, payloadHdrOffset, SESSION_FIXED_SIZE, OFF_IV] at ha ⊢
    omega
  have hiv : (withIV m' OFF_UDP_PAYLOAD params.payloadLength.toNat).slice
      (OFF_UDP_PAYLOAD + OFF_IV) IV_LEN_GCM.toNat = deriveIV params.keyId spduNumber := by
    unfold withIV
    dsimp only
    rw [hslice OFF_KEY_ID (by decide), hslice OFF_SPDU_NUMBER (by decide), ofNat_of_holds hkey,
      ofNat_of_holds hspdu, ← length_deriveIV params.keyId spduNumber]
    exact (Mem.holds_write _ _ _).slice_eq
  rw [ivOf, sealFrame_gcm hlay, ← hiv]
  -- the payload and the tag are stored behind the IV
  refine Mem.slice_congr fun i _ hi => ?_
  have hivLen : IV_LEN_GCM.toNat = 12 := rfl
  simp only [elemsEnd, payloadHdrOffset, SESSION_FIXED_SIZE, OFF_IV, ivLength, if_true, hivLen]
    at hi ⊢
  exact (Mem.write_of_lt (by omega)).trans (Mem.write_of_lt (by omega))

variable {si payloadType : UInt8} {maxPacketSize l2SkeletonSize l2AppidOff : ℕ} {l2Buf : Mem}
  {cfg : RFrameConfig} {baseIdx : UInt32} {crypto : Crypto}

/-- The key is that of the skeleton. -/
lemma ivOf_make (hmode : cfg.mode = .SEC_GCM) (h : makeSkeletonPacket si payloadType maxPacketSize
    l2Buf l2SkeletonSize l2AppidOff cfg baseIdx crypto = some g) (hs : g.SameRun g')
    (hfields : ∀ r i, Mem.Covers (fields r) i → F r i) (hF : ∀ r i, F r i → r ≤ i)
    (hm : Fits .SEC_GCM F g m) :
    ivOf (g'.amendFrame .SEC_GCM m stream spduNumber fields).2 = deriveIV KEY_ID spduNumber := by
  obtain ⟨n, _, _, _, _, _, hplain⟩ := holds_makeSkeletonPacket h
  obtain ⟨hhead, _, hlength, _⟩ := (holds_aadBytes List.length_replicate).mp hplain
  have hparams : (skeletonParams si payloadType cfg n).mode = .SEC_GCM := hmode
  have hkey : (skeletonParams si payloadType cfg n).keyId = KEY_ID := rfl
  have hb := (built_makeSkeletonPacket h).1
  rw [hparams] at hlength
  rw [hmode] at hb
  rw [ivOf_amendFrame hb hs hfields hF hm hparams hhead hlength, hkey]

end RoutableGen

/-! ### Runs -/

section Runs

variable {cfg : RFrameConfig} {crypto : Crypto} {ω : Type} [DecidableEq ω] {w : ω} {idx : UInt32}
  {k : ℕ} {f : Mem}

/-- The IV of an R-GOOSE frame counts the frames of its stream. -/
lemma RGooseTrafficGen.ivOf_run {msg : GooseMessage} {gens : ω → RGooseTrafficGen}
    {s : Pool.State ω UInt32 RGooseTrafficGen} (hmode : cfg.mode = .SEC_GCM)
    (h : ∀ w, ∃ num base, make msg cfg crypto num base = some (gens w))
    (hrun : (GenKind.rgoose .SEC_GCM).Run gens s) (hf : (s.frames w idx)[k]? = some f) :
    ivOf f = deriveIV KEY_ID (UInt32.ofNat (k + 1)) := by
  choose num base h using h
  obtain ⟨hskeleton, hieds, _⟩ := parts_of_make (h w)
  have hb : (gens w).Built .SEC_GCM := hmode ▸ (built_of_make (h w)).1
  have hshown : Pool.Shown (amendPacket .SEC_GCM) (fun v idx => idx.toNat < (num v).toNat)
      (fun v g => (gens w).Of (num v).toNat (base v) g)
      (RoutableGen.Fits .SEC_GCM (gens w).places (gens w).toRoutableGen)
      (fun g idx => g.m_ieds.getD idx.toNat default) ivOf
      fun _ _ ied => deriveIV KEY_ID ((gens w).behind ied).spduNumber := by
    rintro v _ m idx ⟨ieds, plain, rfl, _, _⟩ hm _
    rw [amendPacket_snd]
    exact RoutableGen.ivOf_make hmode hskeleton ⟨_, _, rfl⟩
      (fun r i => (covers_patches _ _ r i).mp) le_of_places hm
  obtain ⟨buffers, hunused, hreach⟩ := hrun
  have hlen : ∀ v, ((GenKind.rgoose .SEC_GCM).ieds (gens v)).length = (num v).toNat :=
    fun v => length_ieds (h v)
  simp only [hlen] at hreach
  have hsound := Pool.sound_of_reach (rules hb (fun v => (num v).toNat) base) @hshown
    (fun v => of_make (h w) (h v))
    (fun b => hmode ▸ fits_of_fresh (h w) (h w) (hunused w b)) rfl hreach
  have hzero : ((gens w).m_ieds.getD idx.toNat default).spduNumber = 0 := by
    rw [hieds, List.getD_eq_getElem?_getD, List.getElem?_map]
    cases (List.range (num w).toNat)[idx.toNat]? <;> rfl
  rw [hsound.shows_eq hf]
  exact congrArg _ (spduNumber_iterate _ hzero k)

/-- So does the IV of an R-SV frame. -/
lemma RSVTrafficGen.ivOf_run {msg : SvMessage} {type : SvType} {gens : ω → RSVTrafficGen}
    {s : Pool.State ω UInt32 RSVTrafficGen} (hmode : cfg.mode = .SEC_GCM)
    (h : ∀ w, ∃ num base, make msg cfg crypto type num base = some (gens w))
    (hrun : (GenKind.rsv .SEC_GCM type).Run gens s) (hf : (s.frames w idx)[k]? = some f) :
    ivOf f = deriveIV KEY_ID (UInt32.ofNat (k + 1)) := by
  choose num base h using h
  obtain ⟨hskeleton, hieds, _⟩ := parts_of_make (h w)
  have hb : (gens w).Built .SEC_GCM := hmode ▸ (built_of_make (h w)).1
  have hshown : Pool.Shown (amendAsdus type.asduNum .SEC_GCM)
      (fun v idx => idx.toNat < (num v).toNat)
      (fun v g => (gens w).Of type.asduNum (num v).toNat (base v) g)
      (RoutableGen.Fits .SEC_GCM ((gens w).places type.asduNum) (gens w).toRoutableGen)
      (fun g idx => g.m_ieds.getD idx.toNat default) ivOf
      fun _ _ ied => deriveIV KEY_ID (ied.spduNumber + 1) := by
    rintro v _ m idx ⟨ieds, plain, rfl, _, _⟩ hm _
    rw [amendAsdus_snd]
    exact RoutableGen.ivOf_make hmode hskeleton ⟨_, _, rfl⟩
      (fun r i => (covers_patches _ _ r i).mp) le_of_places hm
  obtain ⟨buffers, hunused, hreach⟩ := hrun
  have hlen : ∀ v, ((GenKind.rsv .SEC_GCM type).ieds (gens v)).length = (num v).toNat :=
    fun v => length_ieds (h v)
  simp only [hlen, GenKind.rsv_amend] at hreach
  have hsound := Pool.sound_of_reach (rules hb (fun v => (num v).toNat) base) @hshown
    (fun v => of_make _ (h w) (h v))
    (fun b => hmode ▸ fits_of_fresh _ (h w) (h w) (hunused w b)) rfl hreach
  have hzero : ((gens w).m_ieds.getD idx.toNat default).spduNumber = 0 := by
    rw [hieds, List.getD_eq_getElem?_getD, List.getElem?_map]
    cases (List.range (num w).toNat)[idx.toNat]? <;> rfl
  rw [hsound.shows_eq hf]
  exact congrArg _ (spduNumber_iterate _ hzero k)

end Runs

/-- A run of routable generators under AES-GCM. Every worker may have generators of each kind, for
any number of streams; all have one configuration and one backend, and so one key. -/
structure GcmRun (ω : Type) [DecidableEq ω] where
  goose : GooseMessage
  sv : SvType → SvMessage
  cfg : RFrameConfig
  crypto : Crypto
  gooseGens : ω → RGooseTrafficGen
  svGens : SvType → ω → RSVTrafficGen
  gooseState : Pool.State ω UInt32 RGooseTrafficGen
  svState : SvType → Pool.State ω UInt32 RSVTrafficGen
  gcm : cfg.mode = .SEC_GCM
  make_goose : ∀ w, ∃ num base, RGooseTrafficGen.make goose cfg crypto num base =
    some (gooseGens w)
  make_sv : ∀ type w, ∃ num base, RSVTrafficGen.make (sv type) cfg crypto type num base =
    some (svGens type w)
  run_goose : (GenKind.rgoose .SEC_GCM).Run gooseGens gooseState
  run_sv : ∀ type, (GenKind.rsv .SEC_GCM type).Run (svGens type) (svState type)

/-- A stream: the worker that sends it and its number there. -/
inductive RStream (ω : Type)
  | goose (w : ω) (idx : UInt32)
  | sv (type : SvType) (w : ω) (idx : UInt32)

namespace GcmRun

variable {ω : Type} [DecidableEq ω] (run : GcmRun ω)

/-- The frames of a stream, in the order in which they were sealed. -/
def frames : RStream ω → List Mem
  | .goose w idx => run.gooseState.frames w idx
  | .sv type w idx => (run.svState type).frames w idx

variable {run} in
lemma ivOf_frame {c : RStream ω} {k : ℕ} {f : Mem} (hf : (run.frames c)[k]? = some f) :
    ivOf f = deriveIV KEY_ID (UInt32.ofNat (k + 1)) := by
  cases c with
  | goose w idx => exact RGooseTrafficGen.ivOf_run run.gcm run.make_goose run.run_goose hf
  | sv type w idx =>
    exact RSVTrafficGen.ivOf_run run.gcm (run.make_sv type) (run.run_sv type) hf

/-- Two frames of a run have the same IV exactly if they have the same place in their streams,
modulo `2 ^ 32`. So the frames of one stream have different ones, and those of two streams, of
whichever kinds and workers, the same ones one after the other. -/
theorem iv_eq_iff (c d : RStream ω) (j k : ℕ) (f g : Mem) (hf : (run.frames c)[j]? = some f)
    (hg : (run.frames d)[k]? = some g) :
    (ivOf f = ivOf g ↔ j % 2 ^ 32 = k % 2 ^ 32) ∧
      (c = d → j ≠ k → (run.frames c).length ≤ 2 ^ 32 → ivOf f ≠ ivOf g) := by
  have hiff : ivOf f = ivOf g ↔ j % 2 ^ 32 = k % 2 ^ 32 := by
    rw [ivOf_frame hf, ivOf_frame hg, deriveIV_inj, ← UInt32.toNat_inj, UInt32.toNat_ofNat',
      UInt32.toNat_ofNat']
    omega
  refine ⟨hiff, ?_⟩
  rintro rfl hne hlen heq
  obtain ⟨hj, _⟩ := List.getElem?_eq_some_iff.mp hf
  obtain ⟨hk, _⟩ := List.getElem?_eq_some_iff.mp hg
  have hmod := hiff.mp heq
  rw [Nat.mod_eq_of_lt (by omega), Nat.mod_eq_of_lt (by omega)] at hmod
  exact hne hmod

end GcmRun

/-! Two workers send a frame each. -/

/-- The configuration of the sample run. -/
def sampleRunConfig : RFrameConfig := { mode := .SEC_GCM }

lemma isSome_sampleGoose : ∀ w : Bool, (RGooseTrafficGen.make sampleGooseMessage sampleRunConfig
    sampleRunCrypto 1 (if w then 1 else 0)).isSome := by decide +kernel

lemma isSome_sampleSv : ∀ (type : SvType) (w : Bool), (RSVTrafficGen.make (sampleSvMessage type)
    sampleRunConfig sampleRunCrypto type 1 (if w then 1 else 0)).isSome := by
  rintro (_ | _) <;> decide +kernel

def sampleGooseGen (w : Bool) : RGooseTrafficGen := (RGooseTrafficGen.make sampleGooseMessage
  sampleRunConfig sampleRunCrypto 1 (if w then 1 else 0)).get (isSome_sampleGoose w)

def sampleSvGen (type : SvType) (w : Bool) : RSVTrafficGen := (RSVTrafficGen.make
  (sampleSvMessage type) sampleRunConfig sampleRunCrypto type 1 (if w then 1 else 0)).get
    (isSome_sampleSv type w)

lemma skeleton_sampleGooseGen (w : Bool) :
    (sampleGooseGen w).m_skeleton = (sampleGooseGen false).m_skeleton := by
  obtain ⟨_, _, heq, _⟩ := RGooseTrafficGen.of_make
    (Option.some_get (isSome_sampleGoose false)).symm (Option.some_get (isSome_sampleGoose w)).symm
  exact congrArg (·.m_skeleton) heq

lemma skeleton_sampleSvGen (type : SvType) (w : Bool) :
    (sampleSvGen type w).m_skeleton = (sampleSvGen type false).m_skeleton := by
  obtain ⟨_, _, heq, _⟩ := RSVTrafficGen.of_make 1
    (Option.some_get (isSome_sampleSv type false)).symm
    (Option.some_get (isSome_sampleSv type w)).symm
  exact congrArg (·.m_skeleton) heq

lemma length_sampleGooseGen (w : Bool) :
    ((GenKind.rgoose .SEC_GCM).ieds (sampleGooseGen w)).length = 1 :=
  RGooseTrafficGen.length_ieds (Option.some_get (isSome_sampleGoose w)).symm

/-- Before the run. -/
def sampleGooseStart : Pool.State Bool UInt32 RGooseTrafficGen where
  writers := sampleGooseGen
  buffers := fun _ => (sampleGooseGen false).m_skeleton

/-- What a worker does, in a buffer `b`. -/
def sampleCall (s : Pool.State Bool UInt32 RGooseTrafficGen) (w : Bool) (b : ℕ) :
    Pool.State Bool UInt32 RGooseTrafficGen :=
  let r := (s.writers w).amendPacket .SEC_GCM (s.buffers b) 0
  { writers := Function.update s.writers w r.1
    buffers := Function.update s.buffers b r.2
    sent := s.sent ++ [((w, 0), r.2)] }

lemma step_sampleCall (s : Pool.State Bool UInt32 RGooseTrafficGen) (w : Bool) (b : ℕ) :
    Pool.Step (GenKind.rgoose .SEC_GCM).amend
      (fun v idx => idx.toNat < ((GenKind.rgoose .SEC_GCM).ieds (sampleGooseGen v)).length) s
      (sampleCall s w b) :=
  .call s w 0 b (by rw [length_sampleGooseGen]; decide)

lemma run_sampleGoose : (GenKind.rgoose .SEC_GCM).Run sampleGooseGen
    (sampleCall (sampleCall sampleGooseStart false 0) true 1) := by
  refine ⟨sampleGooseStart.buffers, fun w b => ?_, ?_⟩
  · show Mem.slice _ _ _ = Mem.slice (sampleGooseGen w).m_skeleton _ _
    rw [skeleton_sampleGooseGen w]
    rfl
  · exact .tail (.tail .refl (step_sampleCall sampleGooseStart false 0)) (step_sampleCall _ true 1)

lemma run_sampleSv (type : SvType) : (GenKind.rsv .SEC_GCM type).Run (sampleSvGen type) {
    writers := sampleSvGen type
    buffers := fun _ => (sampleSvGen type false).m_skeleton } := by
  refine ⟨fun _ => (sampleSvGen type false).m_skeleton, fun w b => ?_, .refl⟩
  show Mem.slice _ _ _ = Mem.slice (sampleSvGen type w).m_skeleton _ _
  rw [skeleton_sampleSvGen type w]

/-- A call of each. -/
def sampleGcmRun : GcmRun Bool where
  goose := sampleGooseMessage
  sv := sampleSvMessage
  cfg := sampleRunConfig
  crypto := sampleRunCrypto
  gooseGens := sampleGooseGen
  svGens := sampleSvGen
  gooseState := sampleCall (sampleCall sampleGooseStart false 0) true 1
  svState type := {
    writers := sampleSvGen type
    buffers := fun _ => (sampleSvGen type false).m_skeleton }
  gcm := rfl
  make_goose _ := ⟨_, _, (Option.some_get _).symm⟩
  make_sv _ _ := ⟨_, _, (Option.some_get _).symm⟩
  run_goose := run_sampleGoose
  run_sv := run_sampleSv

/-- The frame of each. -/
def sampleSealed (w : Bool) : Mem :=
  ((sampleGooseGen w).amendPacket .SEC_GCM (sampleGooseGen false).m_skeleton 0).2

/-- The second call is of the other worker and has a buffer of its own. -/
lemma sent_sampleGcmRun : sampleGcmRun.gooseState.sent =
    [((false, 0), sampleSealed false), ((true, 0), sampleSealed true)] := by
  have hwriter : ∀ s : Pool.State Bool UInt32 RGooseTrafficGen,
      (sampleCall s false 0).writers true = s.writers true := fun s => by
    simp [sampleCall]
  have hbuffer : ∀ s : Pool.State Bool UInt32 RGooseTrafficGen,
      (sampleCall s false 0).buffers 1 = s.buffers 1 := fun s => by
    simp [sampleCall]
  have hsent : ∀ s w b, (sampleCall s w b).sent =
      s.sent ++ [((w, 0), ((s.writers w).amendPacket .SEC_GCM (s.buffers b) 0).2)] :=
    fun _ _ _ => rfl
  show (sampleCall (sampleCall sampleGooseStart false 0) true 1).sent = _
  rw [hsent, hsent, hwriter, hbuffer, sampleSealed, sampleSealed]
  simp only [sampleGooseStart, List.nil_append, List.singleton_append]

lemma frames_sampleGcmRun (w : Bool) :
    sampleGcmRun.frames (.goose w 0) = [sampleSealed w] := by
  cases w <;> simp [GcmRun.frames, Pool.State.frames, sent_sampleGcmRun]

/-- The two frames are sealed with one IV. -/
theorem iv_eq_iff_sampleGcmRun :
    sampleGcmRun.frames (.goose false 0) = [sampleSealed false] ∧
      sampleGcmRun.frames (.goose true 0) = [sampleSealed true] ∧
      ivOf (sampleSealed false) = ivOf (sampleSealed true) :=
  ⟨frames_sampleGcmRun false, frames_sampleGcmRun true,
    (sampleGcmRun.iv_eq_iff (.goose false 0) (.goose true 0) 0 0 (sampleSealed false)
      (sampleSealed true) (by rw [frames_sampleGcmRun]; rfl)
      (by rw [frames_sampleGcmRun]; rfl)).1.mpr rfl⟩

/-- No stream of the run has sent more than one frame, and yet two frames that differ have the same
IV. -/
theorem ivs_repeat_across_streams :
    (∀ c, (sampleGcmRun.frames c).length ≤ 1) ∧
    sampleGcmRun.frames (.goose false 0) = [sampleSealed false] ∧
      sampleGcmRun.frames (.goose true 0) = [sampleSealed true] ∧
      (sampleSealed false).slice OFF_UDP_SRC_PORT 2 ≠ (sampleSealed true).slice OFF_UDP_SRC_PORT 2 ∧
      ivOf (sampleSealed false) = ivOf (sampleSealed true) := by
  refine ⟨?_, frames_sampleGcmRun false, frames_sampleGcmRun true, by decide +kernel, ?_⟩
  · rintro (⟨w, idx⟩ | ⟨type, w, idx⟩)
    · rw [GcmRun.frames, Pool.State.frames, sent_sampleGcmRun]
      by_cases h : idx = 0
      · subst h
        cases w <;> simp
      · simp [Ne.symm h]
    · exact Nat.zero_le _
  · have hf : ∀ w, (sampleGcmRun.frames (.goose w 0))[0]? = some (sampleSealed w) := fun w => by
      rw [frames_sampleGcmRun]
      rfl
    exact (GcmRun.ivOf_frame (hf false)).trans (GcmRun.ivOf_frame (hf true)).symm

end ProcessBus
