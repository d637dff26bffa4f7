import ProcessBus.Generator.Skeleton
import ProcessBus.Generator.Streams

/-!
# Runs of the generators

The generators of a run are made from one message of the library and, if they are routable, from one
configuration and one crypto backend. Each has streams of its own; they share the buffers, which are
copies of the skeleton at the start.

For all kinds of generators: the buffers leave no trace in the frames.
-/

namespace ProcessBus

open RSess RFrame Relation

/-- What a run needs to know of a kind of generator. -/
structure GenKind (σ ι : Type) where
  amend : σ → Mem → UInt32 → σ × Mem
  ieds : σ → List ι
  withIEDs : σ → List ι → σ
  skeleton : σ → Mem
  size : σ → ℕ

namespace GenKind

def goose : GenKind GooseTrafficGen GooseSourceIED where
  amend := GooseTrafficGen.amendPacket
  ieds := (·.m_ieds)
  withIEDs := fun gen ieds => { gen with m_ieds := ieds }
  skeleton := (·.m_skeleton)
  size := (·.m_skeletonSize)

def sv (type : SvType) : GenKind SVTrafficGen SVSourceIED where
  amend := match type with
    | .SV80 => SVTrafficGen.amendPacketSV80
    | .SV256 => SVTrafficGen.amendPacketSV256
  ieds := (·.m_ieds)
  withIEDs := fun gen ieds => { gen with m_ieds := ieds }
  skeleton := (·.m_skeleton)
  size := (·.m_skeletonSize)

def rgoose (mode : SecurityMode) : GenKind RGooseTrafficGen GooseSourceIED where
  amend := RGooseTrafficGen.amendPacket mode
  ieds := (·.m_ieds)
  withIEDs := fun gen ieds => { gen with m_ieds := ieds }
  skeleton := (·.m_skeleton)
  size := (·.m_skeletonSize)

def rsv (mode : SecurityMode) (type : SvType) : GenKind RSVTrafficGen SVSourceIED where
  amend := match type with
    | .SV80 => RSVTrafficGen.amendPacketSV80 mode
    | .SV256 => RSVTrafficGen.amendPacketSV256 mode
  ieds := (·.m_ieds)
  withIEDs := fun gen ieds => { gen with m_ieds := ieds }
  skeleton := (·.m_skeleton)
  size := (·.m_skeletonSize)

lemma sv_amend (type : SvType) : (sv type).amend = SVTrafficGen.amendAsdus type.asduNum := by
  cases type <;> rfl

lemma rsv_amend (mode : SecurityMode) (type : SvType) :
    (rsv mode type).amend = RSVTrafficGen.amendAsdus type.asduNum mode := by
  cases type <;> rfl

variable {ω σ ι : Type} [DecidableEq ω] (kind : GenKind σ ι) (gens : ω → σ)

/-- The buffers of a new run are copies of the skeleton, whichever generator it is taken from. -/
def Unused (buffers : ℕ → Mem) : Prop :=
  ∀ w b, Fresh (kind.skeleton (gens w)) (kind.size (gens w)) (buffers b)

/-- A run of the generators: calls for any of their streams and with any of the buffers. -/
def Run (s : Pool.State ω UInt32 σ) : Prop :=
  ∃ buffers, kind.Unused gens buffers ∧
    ReflTransGen (Pool.Step kind.amend fun w idx => idx.toNat < (kind.ieds (gens w)).length)
      { writers := gens, buffers := buffers } s

/-- Whatever has been in a buffer in a run, a call leaves in it what it leaves in a copy of the
skeleton. This holds for every state of the streams. -/
def LeavesNoTrace : Prop :=
  ∀ s, kind.Run gens s → ∀ w b idx ieds m,
    ieds.length = (kind.ieds (gens w)).length → idx.toNat < ieds.length →
    Fresh (kind.skeleton (gens w)) (kind.size (gens w)) m →
    (kind.amend (kind.withIEDs (s.writers w) ieds) (s.buffers b) idx).2.slice 0
        (kind.size (gens w)) =
      (kind.amend (kind.withIEDs (s.writers w) ieds) m idx).2.slice 0 (kind.size (gens w))

variable [Inhabited ι]

/-- What makes a run predictable: the frames of a stream are `out` of the states of its IED, and
`next` is what a call makes of a state. -/
structure Law (Good : ω → σ → Prop) (Fits : Mem → Prop) (next : ι → ι)
    (out : ω → UInt32 → ι → List UInt8) (size : ℕ) : Prop where
  rules : Pool.Rules kind.amend (fun w idx => idx.toNat < (kind.ieds (gens w)).length) Good Fits
    (fun g idx => (kind.ieds g).getD idx.toNat default) next
  shown : Pool.Shown kind.amend (fun w idx => idx.toNat < (kind.ieds (gens w)).length) Good Fits
    (fun g idx => (kind.ieds g).getD idx.toNat default) (·.slice 0 size) out
  good : ∀ w, Good w (gens w)
  fits : ∀ w m, Fresh (kind.skeleton (gens w)) (kind.size (gens w)) m → Fits m
  size : ∀ w, kind.size (gens w) = size
  withIEDs : ∀ {w g ieds}, Good w g → ieds.length = (kind.ieds (gens w)).length →
    Good w (kind.withIEDs g ieds)

variable {kind gens} {Good : ω → σ → Prop} {Fits : Mem → Prop} {next : ι → ι}
  {out : ω → UInt32 → ι → List UInt8} {size : ℕ} {s : Pool.State ω UInt32 σ}

lemma Run.sound (h : kind.Run gens s) (hlaw : kind.Law gens Good Fits next out size) (w : ω) :
    ∃ buffers, Pool.Sound Good Fits (fun g idx => (kind.ieds g).getD idx.toNat default) next
      (·.slice 0 size) out ⟨gens, buffers, []⟩ s := by
  obtain ⟨buffers, hunused, hreach⟩ := h
  exact ⟨buffers, Pool.sound_of_reach hlaw.rules hlaw.shown hlaw.good
    (fun b => hlaw.fits w _ (hunused w b)) rfl hreach⟩

lemma Law.leavesNoTrace (hlaw : kind.Law gens Good Fits next out size) :
    kind.LeavesNoTrace gens := by
  intro s hrun w b idx ieds m hlen hidx hm
  obtain ⟨_, hsound⟩ := hrun.sound hlaw w
  have hgood := hlaw.withIEDs (hsound.good w) hlen
  have hkey : idx.toNat < (kind.ieds (gens w)).length := hlen ▸ hidx
  rw [hlaw.size]
  exact (hlaw.shown hgood (hsound.fits b) hkey).trans
    (hlaw.shown hgood (hlaw.fits w m hm) hkey).symm

/-- The `j`-th frame of a stream. -/
lemma Law.frame_eq (hlaw : kind.Law gens Good Fits next out size) (hrun : kind.Run gens s) {w : ω}
    {idx : UInt32} {j : ℕ} {f : Mem} (hf : (s.frames w idx)[j]? = some f) :
    f.slice 0 size = out w idx (next^[j] ((kind.ieds (gens w)).getD idx.toNat default)) := by
  obtain ⟨_, hsound⟩ := hrun.sound hlaw w
  exact hsound.shows_eq hf

end GenKind

/-! ### The kinds -/

section Kinds

variable {ω : Type} {num base : ω → UInt32}

lemma law_goose {msg : GooseMessage} :
    let gen := GooseTrafficGen.make msg 0
    GenKind.goose.Law (fun w => .make msg (num w))
      (fun w g => ∃ ieds, g = { gen with m_ieds := ieds } ∧ ieds.length = (num w).toNat)
      gen.Fits (·.amended gen.m_tsDeltaChange) (fun _ => gen.frame) msg.size := by
  have hlen : ∀ w, (GenKind.goose.ieds (.make msg (num w))).length = (num w).toNat := fun w => by
    show (List.map _ _).length = _
    rw [List.length_map, List.length_range]
  constructor
  · simp only [hlen]
    exact GooseTrafficGen.rules fun w => (num w).toNat
  · simp only [hlen]
    exact GooseTrafficGen.shown fun w => (num w).toNat
  · exact fun w => ⟨_, rfl, hlen w⟩
  · exact fun w m hm i hi _ => Fresh.eq hm hi
  · exact fun w => rfl
  · rintro w _ ieds ⟨_, rfl, _⟩ h
    exact ⟨ieds, rfl, h.trans (hlen w)⟩

lemma law_sv {msg : SvMessage} {type : SvType} :
    let gen := SVTrafficGen.make msg 0 type
    (GenKind.sv type).Law (fun w => .make msg (num w) type)
      (fun w g => ∃ ieds, g = { gen with m_ieds := ieds } ∧ ieds.length = (num w).toNat)
      (gen.Fits type.asduNum) (·.behind type.freq type.asduNum)
      (fun _ => gen.frame type.asduNum) msg.size := by
  have hlen : ∀ w, ((GenKind.sv type).ieds (.make msg (num w) type)).length = (num w).toNat :=
    fun w => by
      show (List.map _ _).length = _
      rw [List.length_map, List.length_range]
  constructor
  · simp only [hlen, GenKind.sv_amend]
    exact SVTrafficGen.rules fun w => (num w).toNat
  · simp only [hlen, GenKind.sv_amend]
    exact SVTrafficGen.shown fun w => (num w).toNat
  · exact fun w => ⟨_, rfl, hlen w⟩
  · exact fun w m hm i hi _ => Fresh.eq hm hi
  · exact fun w => rfl
  · rintro w _ ieds ⟨_, rfl, _⟩ h
    exact ⟨ieds, rfl, h.trans (hlen w)⟩

end Kinds

/-! ### The routable kinds -/

section Routable

variable {cfg : RFrameConfig} {crypto : Crypto} {n n' b b' : UInt32} {ω : Type}
  {num base : ω → UInt32}

namespace RGooseTrafficGen

variable {msg : GooseMessage} {gen gen' : RGooseTrafficGen} {gens : ω → RGooseTrafficGen}

/-- The parts of a generator: a skeleton made of the message, and offsets rebased to it. -/
lemma parts_of_make (h : make msg cfg crypto n b = some gen) :
    RoutableGen.makeSkeletonPacket SI_R_GOOSE PAYLOAD_TYPE_GOOSE MAX_GOOSE_PACKET_SIZE
        (GooseTrafficGen.make msg n).m_skeleton msg.size
        (msg.offsets .GOOSE_APPID_OFFSET).toNat cfg b crypto = some gen.toRoutableGen ∧
      gen.m_ieds = ((List.range n.toNat).map fun i => .init (b.toNat + i + 1)) ∧
      gen.m_offsets = fun i => if i = .GOOSE_APPID_OFFSET then 2 else
        UInt16.ofNat PAYLOAD_ELEM_SIZE +
          (msg.offsets i - (msg.offsets .GOOSE_APPID_OFFSET + 8)) := by
  unfold make at h
  dsimp only at h
  split at h
  · exact absurd h (Option.some_ne_none _).symm
  · rename_i hskeleton
    obtain rfl := Option.some.inj h
    exact ⟨hskeleton, rfl, rfl⟩

lemma built_of_make (h : make msg cfg crypto n b = some gen) :
    gen.Built cfg.mode ∧ gen.PlainFresh ∧ gen.m_crypto = crypto ∧
      gen.m_ieds = (List.range n.toNat).map fun i => .init (b.toNat + i + 1) := by
  obtain ⟨hskeleton, hieds, _⟩ := parts_of_make h
  obtain ⟨hb, hp, hcrypto, _⟩ := RoutableGen.built_makeSkeletonPacket hskeleton
  exact ⟨hb, hp, hcrypto, hieds⟩

variable (n b) in
lemma make_baseIdx : make msg cfg crypto n' b' = (make msg cfg crypto n b).map fun gen =>
    { gen with
      m_ieds := (List.range n'.toNat).map fun i => .init (b'.toNat + i + 1)
      m_baseIdx := b' } := by
  simp only [make, GooseTrafficGen.make]
  rw [RoutableGen.makeSkeletonPacket_baseIdx b]
  generalize RoutableGen.makeSkeletonPacket _ _ _ _ _ _ _ _ _ = skeleton
  cases skeleton <;> rfl

/-- The generators of a run differ in their streams only. -/
lemma of_make (h : make msg cfg crypto n b = some gen)
    (h' : make msg cfg crypto n' b' = some gen') : gen.Of n'.toNat b' gen' := by
  rw [make_baseIdx n b, h, Option.map_some, Option.some.injEq] at h'
  subst h'
  exact ⟨_, _, rfl, by rw [List.length_map, List.length_range], fun i hi _ =>
    (built_of_make h).2.1 i hi⟩

lemma length_ieds (h : make msg cfg crypto n b = some gen) :
    ((GenKind.rgoose cfg.mode).ieds gen).length = n.toNat := by
  show gen.m_ieds.length = _
  rw [(built_of_make h).2.2.2, List.length_map, List.length_range]

/-- Buffers fit all generators of a run alike. -/
lemma fits_of_fresh (h : make msg cfg crypto n b = some gen)
    (h' : make msg cfg crypto n' b' = some gen') {m : Mem}
    (hm : Fresh gen'.m_skeleton gen'.m_skeletonSize m) :
    RoutableGen.Fits cfg.mode gen.places gen.toRoutableGen m := by
  obtain ⟨_, _, rfl, _⟩ := of_make h h'
  exact fun i hi _ => Fresh.eq hm hi

lemma law (hdet : crypto.Deterministic) (hgen : make msg cfg crypto n b = some gen)
    (h : ∀ w, make msg cfg crypto (num w) (base w) = some (gens w)) :
    (GenKind.rgoose cfg.mode).Law gens (fun w g => gen.Of (num w).toNat (base w) g)
      (RoutableGen.Fits cfg.mode gen.places gen.toRoutableGen) gen.behind
      (fun w idx ied => gen.frame cfg.mode (idx + base w) ied) gen.m_skeletonSize := by
  obtain ⟨hb, hp, hcrypto, _⟩ := built_of_make hgen
  have hlen : ∀ w, ((GenKind.rgoose cfg.mode).ieds (gens w)).length = (num w).toNat :=
    fun w => length_ieds (h w)
  constructor
  · simp only [hlen]
    exact rules hb (fun w => (num w).toNat) base
  · simp only [hlen]
    exact shown (hcrypto ▸ hdet) hb hp (fun w => (num w).toNat) base
  · exact fun w => of_make hgen (h w)
  · exact fun w m hm => fits_of_fresh hgen (h w) hm
  · intro w
    obtain ⟨_, _, heq, _⟩ := of_make hgen (h w)
    rw [heq]
    rfl
  · rintro w _ ieds ⟨_, plain, rfl, _, hplain⟩ hieds
    exact ⟨ieds, plain, rfl, hieds.trans (hlen w), hplain⟩

end RGooseTrafficGen

namespace RSVTrafficGen

variable {msg : SvMessage} {type : SvType} {gen gen' : RSVTrafficGen} {gens : ω → RSVTrafficGen}

/-- The parts of a generator: a skeleton made of the message, and offsets rebased to it. -/
lemma parts_of_make (h : make msg cfg crypto type n b = some gen) :
    RoutableGen.makeSkeletonPacket SI_R_SV PAYLOAD_TYPE_SV MAX_SV_PACKET_SIZE msg.buffer msg.size
        msg.appidOffset.toNat cfg b crypto = some gen.toRoutableGen ∧
      gen.m_ieds = ((List.range n.toNat).map fun i =>
        .init (UInt32.ofNat (b.toNat + i + 1)).toNat) ∧
      gen.m_appidOffset = 2 ∧ gen.m_freq = type.freq ∧
      gen.m_asduOffs = fun i =>
        ⟨rebase msg.appidOffset (msg.asduOffs i).svid,
          rebase msg.appidOffset (msg.asduOffs i).smpCnt⟩ := by
  unfold make at h
  dsimp only at h
  split at h
  · exact absurd h (Option.some_ne_none _).symm
  · rename_i hskeleton
    obtain rfl := Option.some.inj h
    exact ⟨hskeleton, rfl, rfl, rfl, rfl⟩

lemma built_of_make (h : make msg cfg crypto type n b = some gen) :
    gen.Built cfg.mode ∧ gen.PlainFresh ∧ gen.m_crypto = crypto ∧ gen.m_freq = type.freq ∧
      gen.m_ieds = (List.range n.toNat).map fun i =>
        .init (UInt32.ofNat (b.toNat + i + 1)).toNat := by
  obtain ⟨hskeleton, hieds, _, hfreq, _⟩ := parts_of_make h
  obtain ⟨hb, hp, hcrypto, _⟩ := RoutableGen.built_makeSkeletonPacket hskeleton
  exact ⟨hb, hp, hcrypto, hfreq, hieds⟩

variable (n b) in
lemma make_baseIdx : make msg cfg crypto type n' b' = (make msg cfg crypto type n b).map
    fun gen => { gen with
      m_ieds := (List.range n'.toNat).map fun i =>
        .init (UInt32.ofNat (b'.toNat + i + 1)).toNat
      m_baseIdx := b' } := by
  simp only [make, SVTrafficGen.make]
  rw [RoutableGen.makeSkeletonPacket_baseIdx b]
  generalize RoutableGen.makeSkeletonPacket _ _ _ _ _ _ _ _ _ = skeleton
  cases skeleton <;> rfl

/-- The generators of a run differ in their streams only. -/
lemma of_make (num : ℕ) (h : make msg cfg crypto type n b = some gen)
    (h' : make msg cfg crypto type n' b' = some gen') : gen.Of num n'.toNat b' gen' := by
  rw [make_baseIdx n b, h, Option.map_some, Option.some.injEq] at h'
  subst h'
  exact ⟨_, _, rfl, by rw [List.length_map, List.length_range], fun i hi _ =>
    (built_of_make h).2.1 i hi⟩

lemma length_ieds (h : make msg cfg crypto type n b = some gen) :
    ((GenKind.rsv cfg.mode type).ieds gen).length = n.toNat := by
  show gen.m_ieds.length = _
  rw [(built_of_make h).2.2.2.2, List.length_map, List.length_range]

/-- Buffers fit all generators of a run alike. -/
lemma fits_of_fresh (num : ℕ) (h : make msg cfg crypto type n b = some gen)
    (h' : make msg cfg crypto type n' b' = some gen') {m : Mem}
    (hm : Fresh gen'.m_skeleton gen'.m_skeletonSize m) :
    RoutableGen.Fits cfg.mode (gen.places num) gen.toRoutableGen m := by
  obtain ⟨_, _, rfl, _⟩ := of_make num h h'
  exact fun i hi _ => Fresh.eq hm hi

lemma law (hdet : crypto.Deterministic) (hgen : make msg cfg crypto type n b = some gen)
    (h : ∀ w, make msg cfg crypto type (num w) (base w) = some (gens w)) :
    (GenKind.rsv cfg.mode type).Law gens
      (fun w g => gen.Of type.asduNum (num w).toNat (base w) g)
      (RoutableGen.Fits cfg.mode (gen.places type.asduNum) gen.toRoutableGen)
      (gen.behind type.asduNum)
      (fun w idx ied => gen.frame type.asduNum cfg.mode (idx + base w) ied)
      gen.m_skeletonSize := by
  obtain ⟨hb, hp, hcrypto, _⟩ := built_of_make hgen
  have hlen : ∀ w, ((GenKind.rsv cfg.mode type).ieds (gens w)).length = (num w).toNat :=
    fun w => length_ieds (h w)
  constructor
  · simp only [hlen, GenKind.rsv_amend]
    exact rules hb (fun w => (num w).toNat) base
  · simp only [hlen, GenKind.rsv_amend]
    exact shown (hcrypto ▸ hdet) hb hp (fun w => (num w).toNat) base
  · exact fun w => of_make _ hgen (h w)
  · exact fun w m hm => fits_of_fresh _ hgen (h w) hm
  · intro w
    obtain ⟨_, _, heq, _⟩ := of_make type.asduNum hgen (h w)
    rw [heq]
    rfl
  · rintro w _ ieds ⟨_, plain, rfl, _, hplain⟩ hieds
    exact ⟨ieds, plain, rfl, hieds.trans (hlen w), hplain⟩

end RSVTrafficGen

end Routable

/-- Recycled buffers leave no trace, whatever the kind of the generators. -/
theorem recycled_buffers_leave_no_trace {ω : Type} [DecidableEq ω] (goose : GooseMessage)
    (sv : SvType → SvMessage) (cfg : RFrameConfig) {crypto : Crypto}
    (hdet : crypto.Deterministic) (num base : ω → UInt32) :
    GenKind.goose.LeavesNoTrace (fun w => .make goose (num w)) ∧
    (∀ type, (GenKind.sv type).LeavesNoTrace fun w => .make (sv type) (num w) type) ∧
    (∀ gens, (∀ w, RGooseTrafficGen.make goose cfg crypto (num w) (base w) = some (gens w)) →
      (GenKind.rgoose cfg.mode).LeavesNoTrace gens) ∧
    ∀ type gens, (∀ w, RSVTrafficGen.make (sv type) cfg crypto type (num w) (base w) =
      some (gens w)) → (GenKind.rsv cfg.mode type).LeavesNoTrace gens := by
  refine ⟨law_goose.leavesNoTrace, fun type => law_sv.leavesNoTrace, fun gens h => ?_,
    fun type gens h => ?_⟩
  · exact fun s hrun w => (RGooseTrafficGen.law hdet (h w) h).leavesNoTrace s hrun w
  · exact fun s hrun w => (RSVTrafficGen.law hdet (h w) h).leavesNoTrace s hrun w

/-! Two R-GOOSE streams with a real backend: their first frames under AES-128-GCM and the lab
key. Both have the same IV and hence the same key stream. -/

def sampleKeystream : List UInt8 :=
  [0x34, 0x60, 0xBD, 0xF7, 0x03, 0xE2, 0x6D, 0x4F, 0x89, 0x50, 0x23, 0xE0, 0x44, 0x5C, 0xB3,
    0x9C, 0x75, 0x8A, 0x25, 0x46, 0x06, 0x5E, 0xED, 0xFF, 0xF4, 0x6B, 0x1F, 0x29, 0x41, 0x17,
    0x0A, 0xDC, 0xE0, 0x93, 0x49, 0x35, 0xDA, 0xA2, 0xD9, 0x79, 0x6F, 0x5E, 0x17, 0xAE, 0x21,
    0x85, 0x8E, 0x56, 0xD2, 0x13, 0x11, 0x6A, 0x93, 0x3B, 0x21, 0x27, 0xFA, 0x4B, 0xED, 0xD9,
    0x8F, 0x82, 0x95, 0xC6, 0x4F, 0xA8, 0x95, 0xCE, 0xC9, 0xB0, 0x80, 0xD9, 0x8D, 0xF1, 0x6B,
    0xEF, 0xBB, 0x6B, 0x5A, 0x40, 0xC8, 0x26, 0x2E, 0x76, 0x09, 0x7D, 0x29, 0x41, 0xD9, 0xAE,
    0xC3, 0x74, 0x55, 0x62, 0xF6, 0x2C, 0x54, 0xD9, 0xF0, 0x36, 0x8B, 0xD3, 0x5E, 0xC4, 0xC4,
    0x3D, 0x8F, 0x8B, 0xBF, 0xDF, 0x4B, 0xDD, 0xA6, 0xF6, 0xB6, 0x44, 0x4D, 0x98, 0xA5, 0x2A,
    0x5C, 0x21, 0x34, 0x9B, 0x93, 0x71, 0xA5, 0x70, 0x57, 0x68, 0xA7, 0x0E]

/-- The session header of the first frame of stream `i`, from 1 on. -/
def sampleRunParams (i : ℕ) : BuildParams where
  mode := .SEC_GCM
  spduNumber := 1
  appid := UInt16.ofNat i
  apduLength := 126

/-- What is encrypted in it. -/
def sampleRunData (i : ℕ) : List UInt8 :=
  elemBytes (sampleRunParams i) ++
    sampleGooseLayout.pdu ((GooseSourceIED.init i).amended 0).values

/-- The recorded tags; any other frame gets a zero tag. -/
def sampleRunTag (iv aad data : List UInt8) : List UInt8 :=
  if iv = deriveIV 1 1 ∧ aad = aadBytes (sampleRunParams 1) iv ∧ data = sampleRunData 1 then
    [0x35, 0x68, 0xF0, 0x6D, 0xF7, 0x8E, 0xB1, 0x84, 0x90, 0x9F, 0xD6, 0x11, 0xD5, 0x6A, 0xA3, 0x4E]
  else if iv = deriveIV 1 1 ∧ aad = aadBytes (sampleRunParams 2) iv ∧ data = sampleRunData 2 then
    [0x68, 0x18, 0x58, 0xDE, 0x56, 0x94, 0x99, 0x2D, 0x7C, 0x5C, 0xA2, 0xFB, 0x47, 0x70, 0x15, 0x17]
  else
    List.replicate TAG_SIZE 0

lemma length_sampleRunTag (iv aad data : List UInt8) :
    (sampleRunTag iv aad data).length = TAG_SIZE := by
  unfold sampleRunTag
  split_ifs <;> rfl

/-- Counter mode is its own inverse. -/
def sampleXor (data : List UInt8) : List UInt8 :=
  data.mapIdx fun i b => b ^^^ sampleKeystream.getD i 0

lemma sampleXor_sampleXor (data : List UInt8) : sampleXor (sampleXor data) = data := by
  refine List.ext_getElem (by simp [sampleXor]) fun i _ _ => ?_
  simp only [sampleXor, List.getElem_mapIdx]
  rw [UInt8.xor_assoc, UInt8.xor_self, UInt8.xor_zero]

def sampleRunCrypto : Crypto where
  HMAC _ := some (List.replicate TAG_SIZE 0)
  Encrypt iv aad data tag :=
    (true, sampleXor data, (sampleRunTag iv aad data).leftpad tag.length 0 |>.take tag.length)
  Decrypt iv aad data tag := (tag = sampleRunTag iv aad (sampleXor data), sampleXor data)
  length_HMAC h := by cases h; rfl
  length_Encrypt iv aad data tag := by
    refine ⟨by simp [sampleXor], ?_⟩
    simp only [List.length_take, List.leftpad, List.length_append, List.length_replicate]
    omega
  length_Decrypt iv aad data tag := by simp [sampleXor]

lemma lawful_sampleRunCrypto : sampleRunCrypto.Lawful where
  hmac_succeeds _ := rfl
  decrypt_encrypt iv aad data tag _ htag := by
    have hlen := length_sampleRunTag iv aad data
    simp [sampleRunCrypto, sampleXor_sampleXor, htag, List.leftpad, ← hlen]

lemma deterministic_sampleRunCrypto : sampleRunCrypto.Deterministic where
  hmac_succeeds _ := rfl
  encrypt_tag iv aad data tag tag' h := by
    simp only [sampleRunCrypto, h]

/-- The generators of two workers. -/
theorem recycled_buffers_leave_no_trace_sample :
    sampleRunCrypto.Deterministic ∧ ∃ gens : Bool → RGooseTrafficGen,
      (∀ w, RGooseTrafficGen.make sampleGooseMessage { mode := .SEC_GCM } sampleRunCrypto 1
        (if w then 1 else 0) = some (gens w)) ∧
      (GenKind.rgoose .SEC_GCM).LeavesNoTrace gens := by
  have hmake : ∀ w : Bool, (RGooseTrafficGen.make sampleGooseMessage { mode := .SEC_GCM }
      sampleRunCrypto 1 (if w then 1 else 0)).isSome := by decide +kernel
  refine ⟨deterministic_sampleRunCrypto, fun w => (RGooseTrafficGen.make sampleGooseMessage
    { mode := .SEC_GCM } sampleRunCrypto 1 (if w then 1 else 0)).get (hmake w),
    fun w => (Option.some_get _).symm, ?_⟩
  exact (recycled_buffers_leave_no_trace sampleGooseMessage sampleSvMessage { mode := .SEC_GCM }
    deterministic_sampleRunCrypto (fun _ => 1) fun w : Bool => if w then 1 else 0).2.2.1 _
    fun w => (Option.some_get _).symm

end ProcessBus
