import ProcessBus.Common.Naming
import ProcessBus.Common.Registration
import ProcessBus.Lib.Tlv
import ProcessBus.Processor.Pipeline

/-!
# The stream registry

`RX_Application::Init` makes the sources of six kinds of streams and enters them in two containers.
All six loops number their streams from APPID 1 on. L2 and routable streams share the containers,
and so do SV streams with one and with eight ASDUs.

So the registry is in order only where no container gets streams of two kinds, nor more than there
are APPIDs.
-/

namespace ProcessBus

open RSess

/-- The settings `ParseCmdOptions` leaves behind. -/
structure RxConfig where
  m_confGooseNum : UInt32 := 0
  m_confSV80Num : UInt32 := 0
  m_confSV256Num : UInt32 := 0
  m_confRGooseNum : UInt32 := 0
  m_confRSV80Num : UInt32 := 0
  m_confRSV256Num : UInt32 := 0
  m_rMode : SecurityMode := .SEC_NONE
  m_gooseEntries : UInt32 := 16
  m_rDstIP : UInt32 := R_DEFAULT_DST_IP

/-! ### The sources -/

/-- The source of the GOOSE stream with number `i`. -/
def gooseSource (entries : UInt32) (mac : MAC) (dstIP : UInt32) (i : ℕ) : GooseSource where
  m_dmac := mac
  m_appid := UInt16.ofNat (0x0001 + i)
  m_goid := goIdName (i + 1)
  m_dataSetRef := dataSetName (i + 1)
  m_gocbRef := gocbName (i + 1)
  m_crev := 1
  m_numEntries := entries
  m_dstIP := dstIP

/-- The source of the SV stream with number `i`. -/
def svSource (numASDU : UInt32) (mac : MAC) (dstIP : UInt32) (i : ℕ) : SVStreamSource where
  m_dmac := mac
  m_appid := UInt16.ofNat (0x0001 + i)
  m_svid := svIdName (i + 1)
  m_crev := 1
  m_numASDU := numASDU
  m_dstIP := dstIP

namespace RxConfig

variable (conf : RxConfig) (i : ℕ)

/-- The Ethernet address of the group stream `i` publishes to. -/
def rMAC : MAC := RFrame.multicastMac (RFrame.streamDstIp conf.m_rDstIP i)

def l2Goose : GooseSource := gooseSource conf.m_gooseEntries L2_GOOSE_MAC 0 i

def sv80 : SVStreamSource := svSource 1 L2_SV_MAC 0 i

def sv256 : SVStreamSource := svSource 8 L2_SV_MAC 0 i

def rGoose : GooseSource :=
  gooseSource conf.m_gooseEntries (conf.rMAC i) (RFrame.streamDstIp conf.m_rDstIP i) i

def rSv80 : SVStreamSource := svSource 1 (conf.rMAC i) (RFrame.streamDstIp conf.m_rDstIP i) i

def rSv256 : SVStreamSource := svSource 8 (conf.rMAC i) (RFrame.streamDstIp conf.m_rDstIP i) i

end RxConfig

/-! ### Registration -/

namespace RxApplication

/-- `m_gooseMap[src->GetPassport()] = src`. -/
def registerGoose (app : RxApplication) (src : GooseSource) : RxApplication :=
  { app with
    gooseSources := app.gooseSources ++ [src]
    m_gooseMap := app.m_gooseMap.assign src.getPassport app.gooseSources.length }

/-- `m_svMap[src->GetPassport()] = src`. -/
def registerSV (app : RxApplication) (src : SVStreamSource) : RxApplication :=
  { app with
    svSources := app.svSources ++ [src]
    m_svMap := app.m_svMap.assign src.getPassport app.svSources.length }

end RxApplication

/-- `RX_Application::Init`. -/
def init (conf : RxConfig) : RxApplication :=
  let app : RxApplication := { m_rMode := conf.m_rMode }
  let app := (List.range conf.m_confGooseNum.toNat).foldl
    (fun app i => app.registerGoose (conf.l2Goose i)) app
  let app := (List.range conf.m_confSV80Num.toNat).foldl
    (fun app i => app.registerSV (RxConfig.sv80 i)) app
  let app := (List.range conf.m_confSV256Num.toNat).foldl
    (fun app i => app.registerSV (RxConfig.sv256 i)) app
  let app := (List.range conf.m_confRGooseNum.toNat).foldl
    (fun app i => app.registerGoose (conf.rGoose i)) app
  let app := (List.range conf.m_confRSV80Num.toNat).foldl
    (fun app i => app.registerSV (conf.rSv80 i)) app
  (List.range conf.m_confRSV256Num.toNat).foldl
    (fun app i => app.registerSV (conf.rSv256 i)) app

/-! ### What is registered -/

/-- The sources in the order in which they are registered. -/
def RxConfig.allGoose (conf : RxConfig) : List GooseSource :=
  (List.range conf.m_confGooseNum.toNat).map conf.l2Goose ++
    (List.range conf.m_confRGooseNum.toNat).map conf.rGoose

def RxConfig.allSV (conf : RxConfig) : List SVStreamSource :=
  (List.range conf.m_confSV80Num.toNat).map RxConfig.sv80 ++
    (List.range conf.m_confSV256Num.toNat).map RxConfig.sv256 ++
    (List.range conf.m_confRSV80Num.toNat).map conf.rSv80 ++
    (List.range conf.m_confRSV256Num.toNat).map conf.rSv256

/-- The application holds these sources, and its containers were filled with them in order. -/
structure Registered (app : RxApplication) (goose : List GooseSource) (sv : List SVStreamSource) :
    Prop where
  gooseSources : app.gooseSources = goose
  svSources : app.svSources = sv
  gooseMap : app.m_gooseMap = .assignAll (goose.map GooseSource.getPassport)
  svMap : app.m_svMap = .assignAll (sv.map SVStreamSource.getPassport)

namespace Registered

variable {app : RxApplication} {goose : List GooseSource} {sv : List SVStreamSource}

lemma registerGoose (h : Registered app goose sv) (src : GooseSource) :
    Registered (app.registerGoose src) (goose ++ [src]) sv where
  gooseSources := congrArg (· ++ [src]) h.gooseSources
  svSources := h.svSources
  gooseMap := by
    rw [List.map_append, List.map_singleton, AppIdContainer.assignAll_concat, ← h.gooseMap,
      List.length_map, ← h.gooseSources]
    rfl
  svMap := h.svMap

lemma registerSV (h : Registered app goose sv) (src : SVStreamSource) :
    Registered (app.registerSV src) goose (sv ++ [src]) where
  gooseSources := h.gooseSources
  svSources := congrArg (· ++ [src]) h.svSources
  gooseMap := h.gooseMap
  svMap := by
    rw [List.map_append, List.map_singleton, AppIdContainer.assignAll_concat, ← h.svMap,
      List.length_map, ← h.svSources]
    rfl

/-- One loop over GOOSE streams. -/
lemma foldl_registerGoose (h : Registered app goose sv) (src : ℕ → GooseSource) (l : List ℕ) :
    Registered (l.foldl (fun app i => app.registerGoose (src i)) app) (goose ++ l.map src) sv := by
  induction l generalizing app goose with
  | nil => simpa using h
  | cons i l ih => simpa using ih (h.registerGoose (src i))

/-- One loop over SV streams. -/
lemma foldl_registerSV (h : Registered app goose sv) (src : ℕ → SVStreamSource) (l : List ℕ) :
    Registered (l.foldl (fun app i => app.registerSV (src i)) app) goose (sv ++ l.map src) := by
  induction l generalizing app sv with
  | nil => simpa using h
  | cons i l ih => simpa using ih (h.registerSV (src i))

end Registered

theorem registered_init (conf : RxConfig) :
    Registered (init conf) conf.allGoose conf.allSV := by
  have h₀ : Registered { m_rMode := conf.m_rMode } [] [] := ⟨rfl, rfl, rfl, rfl⟩
  have h₁ := h₀.foldl_registerGoose conf.l2Goose (List.range conf.m_confGooseNum.toNat)
  have h₂ := h₁.foldl_registerSV RxConfig.sv80 (List.range conf.m_confSV80Num.toNat)
  have h₃ := h₂.foldl_registerSV RxConfig.sv256 (List.range conf.m_confSV256Num.toNat)
  have h₄ := h₃.foldl_registerGoose conf.rGoose (List.range conf.m_confRGooseNum.toNat)
  have h₅ := h₄.foldl_registerSV conf.rSv80 (List.range conf.m_confRSV80Num.toNat)
  exact h₅.foldl_registerSV conf.rSv256 (List.range conf.m_confRSV256Num.toNat)

lemma mode_init (conf : RxConfig) : (init conf).m_rMode = conf.m_rMode := by
  have hgoose : ∀ {src : ℕ → GooseSource} {l : List ℕ} {app : RxApplication},
      (l.foldl (fun app i => app.registerGoose (src i)) app).m_rMode = app.m_rMode :=
    Fold.view_foldl_of_fixed RxApplication.m_rMode (fun _ h _ => h) rfl
  have hsv : ∀ {src : ℕ → SVStreamSource} {l : List ℕ} {app : RxApplication},
      (l.foldl (fun app i => app.registerSV (src i)) app).m_rMode = app.m_rMode :=
    Fold.view_foldl_of_fixed RxApplication.m_rMode (fun _ h _ => h) rfl
  exact hsv.trans (hsv.trans (hgoose.trans (hsv.trans (hsv.trans hgoose))))

/-- Whatever the counts are, no two entries of the registry hold the same source. -/
lemma filled_init (conf : RxConfig) : (∃ n, (init conf).m_gooseMap.Filled n) ∧
    ∃ n, (init conf).m_svMap.Filled n := by
  obtain ⟨_, _, hgoose, hsv⟩ := registered_init conf
  rw [hgoose, hsv]
  exact ⟨⟨_, AppIdContainer.filled_assignAll _⟩, _, AppIdContainer.filled_assignAll _⟩

/-! ### When the registry is in order -/

/-- The APPIDs of `n` streams of one kind. -/
def appidsOf (n : ℕ) : List UInt16 := (List.range n).map fun i => UInt16.ofNat (0x0001 + i)

lemma toNat_appid (i : ℕ) : (UInt16.ofNat (0x0001 + i)).toNat = (1 + i) % 65536 :=
  UInt16.toNat_ofNat'

lemma nodup_appidsOf (n : ℕ) : (appidsOf n).Nodup ↔ n ≤ 65536 := by
  constructor
  · intro h
    by_contra hn
    have := List.pairwise_iff_getElem.mp h 0 65536 (by simp [appidsOf]; omega)
      (by simp [appidsOf]; omega) (by decide)
    simp [appidsOf] at this
  · intro hn
    refine (List.nodup_map_iff_inj_on List.nodup_range).mpr fun i hi j hj heq => ?_
    rw [List.mem_range] at hi hj
    have hnat := congrArg UInt16.toNat heq
    rw [toNat_appid, toNat_appid] at hnat
    omega

/-- All kinds begin with APPID 1. -/
lemma disjoint_appidsOf (n k : ℕ) : (appidsOf n).Disjoint (appidsOf k) ↔ n = 0 ∨ k = 0 := by
  have hone : ∀ {n}, n ≠ 0 → (1 : UInt16) ∈ appidsOf n := fun hn =>
    List.mem_map.mpr ⟨0, List.mem_range.mpr (Nat.pos_of_ne_zero hn), rfl⟩
  constructor
  · intro h
    by_contra hne
    rw [not_or] at hne
    exact h (hone hne.1) (hone hne.2)
  · rintro (rfl | rfl) <;> simp [appidsOf]

/-- A container gets no more streams of one kind than there are APPIDs, and no two kinds. -/
def OneKind (counts : List ℕ) : Prop :=
  (∀ n ∈ counts, n ≤ 65536) ∧ counts.Pairwise fun n k => n = 0 ∨ k = 0

instance (counts : List ℕ) : Decidable (OneKind counts) := inferInstanceAs (Decidable (_ ∧ _))

lemma nodup_flatMap_appidsOf (counts : List ℕ) :
    (counts.flatMap appidsOf).Nodup ↔ OneKind counts := by
  have hdisj : Function.onFun List.Disjoint appidsOf = fun n k => n = 0 ∨ k = 0 :=
    funext₂ fun n k => propext (disjoint_appidsOf n k)
  rw [List.nodup_flatMap, hdisj]
  simp only [nodup_appidsOf, OneKind]

namespace RxConfig

/-- How many streams of each kind the GOOSE container gets. -/
def gooseCounts (conf : RxConfig) : List ℕ :=
  [conf.m_confGooseNum.toNat, conf.m_confRGooseNum.toNat]

/-- How many streams of each kind the SV container gets. -/
def svCounts (conf : RxConfig) : List ℕ :=
  [conf.m_confSV80Num.toNat, conf.m_confSV256Num.toNat, conf.m_confRSV80Num.toNat,
    conf.m_confRSV256Num.toNat]

lemma appids_allGoose (conf : RxConfig) :
    (conf.allGoose.map GooseSource.getPassport).map HasAppId.appid =
      conf.gooseCounts.flatMap appidsOf := by
  simp [allGoose, gooseCounts, appidsOf, HasAppId.appid, GooseSource.getPassport, l2Goose, rGoose,
    gooseSource, Function.comp_def]

lemma appids_allSV (conf : RxConfig) :
    (conf.allSV.map SVStreamSource.getPassport).map HasAppId.appid =
      conf.svCounts.flatMap appidsOf := by
  simp [allSV, svCounts, appidsOf, HasAppId.appid, SVStreamSource.getPassport, sv80, sv256, rSv80,
    rSv256, svSource, Function.comp_def]

lemma length_allGoose_le (conf : RxConfig) : conf.allGoose.length ≤ SIZE_MAX := by
  have h₁ := conf.m_confGooseNum.toNat_lt
  have h₂ := conf.m_confRGooseNum.toNat_lt
  simp only [allGoose, List.length_append, List.length_map, List.length_range, SIZE_MAX]
  omega

lemma length_allSV_le (conf : RxConfig) : conf.allSV.length ≤ SIZE_MAX := by
  have h₁ := conf.m_confSV80Num.toNat_lt
  have h₂ := conf.m_confSV256Num.toNat_lt
  have h₃ := conf.m_confRSV80Num.toNat_lt
  have h₄ := conf.m_confRSV256Num.toNat_lt
  simp only [allSV, List.length_append, List.length_map, List.length_range, SIZE_MAX]
  omega

end RxConfig

lemma GoosePassport.beq_self (pass : GoosePassport) : (pass == pass) = true := by
  simp [GoosePassport.beq_iff]

lemma SVStreamPassport.beq_self (pass : SVStreamPassport) : (pass == pass) = true := by
  simp [SVStreamPassport.beq_iff]

/-- Every source is found by its own passport, and every key is the passport of its value. -/
structure Faithful (app : RxApplication) : Prop where
  gooseFound : ∀ i (hi : i < app.gooseSources.length),
    app.m_gooseMap.lookup app.gooseSources[i].getPassport = some i
  gooseKey : ∀ entry ∈ app.m_gooseMap.m_values,
    app.gooseSources[entry.2]?.map GooseSource.getPassport = some entry.1
  svFound : ∀ i (hi : i < app.svSources.length),
    app.m_svMap.lookup app.svSources[i].getPassport = some i
  svKey : ∀ entry ∈ app.m_svMap.m_values,
    app.svSources[entry.2]?.map SVStreamSource.getPassport = some entry.1

/-- The registry is in order exactly if each container gets streams of one kind only, and no more
than there are APPIDs. -/
theorem registry_faithful_iff (conf : RxConfig) :
    Faithful (init conf) ↔ OneKind conf.gooseCounts ∧ OneKind conf.svCounts := by
  have hreg := registered_init conf
  have hgoose := AppIdContainer.found_iff_nodup (conf.allGoose.map GooseSource.getPassport)
    (by rw [List.length_map]; exact conf.length_allGoose_le) GoosePassport.beq_self
  have hsv := AppIdContainer.found_iff_nodup (conf.allSV.map SVStreamSource.getPassport)
    (by rw [List.length_map]; exact conf.length_allSV_le) SVStreamPassport.beq_self
  rw [conf.appids_allGoose, nodup_flatMap_appidsOf] at hgoose
  rw [conf.appids_allSV, nodup_flatMap_appidsOf] at hsv
  simp only [List.length_map, List.getElem_map, List.getElem?_map, ← hreg.gooseMap,
    ← hreg.svMap] at hgoose hsv
  rw [← hgoose, ← hsv]
  simp only [← hreg.gooseSources, ← hreg.svSources]
  constructor
  · rintro ⟨h₁, h₂, h₃, h₄⟩
    exact ⟨⟨h₁, h₂⟩, h₃, h₄⟩
  · rintro ⟨⟨h₁, h₂⟩, h₃, h₄⟩
    exact ⟨h₁, h₂, h₃, h₄⟩

/-- With one SV stream of each kind, the frames of the first go to the source of the second, and
those of the second to nobody. -/
theorem registry_mixes_sv80_with_sv256 :
    (init { m_confSV80Num := 1, m_confSV256Num := 1 }).m_svMap.lookup
        (RxConfig.sv80 0).getPassport = some 1 ∧
      (init { m_confSV80Num := 1, m_confSV256Num := 1 }).m_svMap.lookup
        (RxConfig.sv256 0).getPassport = none ∧
      ¬ Faithful (init { m_confSV80Num := 1, m_confSV256Num := 1 }) := by
  have hmixed : (init { m_confSV80Num := 1, m_confSV256Num := 1 }).m_svMap.lookup
      (RxConfig.sv80 0).getPassport = some 1 := by decide +kernel
  refine ⟨hmixed, by decide +kernel, fun h => ?_⟩
  have hfound := h.svFound 0 (by decide +kernel)
  exact absurd (hfound.symm.trans hmixed) (by decide)

/-! Frames of stream `i` that find their source, with one entry or one ASDU in them. -/

def sampleGooseApdu (i : ℕ) (stNum : UInt8) : List UInt8 :=
  Tlv.short (0x61, [(0x80, gocbName (i + 1)), (0x81, [7]), (0x82, dataSetName (i + 1)),
    (0x83, goIdName (i + 1)), (0x84, List.replicate 8 0), (0x85, [stNum]), (0x86, [0]), (0x87, [0]),
    (0x88, [1]), (0x89, [0]), (0x8A, [1]), (0xAB, [0x83, 1, 1])].flatMap Tlv.short)

def sampleGooseRx (i : ℕ) (stNum : UInt8) : RxFrame where
  mem := (Ptr.ofBytes (L2_GOOSE_MAC.m_mac ++ List.replicate 6 0 ++ [0x88, 0xB8] ++
    beBytes 2 (i + 1) ++ [0, 124, 0, 0, 0, 0] ++ sampleGooseApdu i stNum)).mem
  pktLen := 138

def sampleSvRx (i : ℕ) (smpCnt : UInt8) : RxFrame where
  mem := (Ptr.ofBytes (L2_SV_MAC.m_mac ++ List.replicate 6 0 ++ [0x88, 0xBA] ++
    beBytes 2 (i + 1) ++ [0, 106, 0, 0, 0, 0, 0x60, 0x60, 0x80, 1, 1, 0xA2, 0x5B, 0x30, 0x59] ++
    Tlv.short (0x80, svIdName (i + 1)) ++
    [0x82, 2, 0, smpCnt, 0x83, 4, 0, 0, 0, 1, 0x85, 1, 2, 0x87, 64] ++ List.replicate 64 0)).mem
  pktLen := 120

/-- In mode `SEC_NONE`. The NIC has verified the checksum. -/
def sampleRGooseRx (i : ℕ) (spduNumber stNum : UInt8) : RxFrame where
  mem := (Ptr.ofBytes ([0x01, 0, 0x5E, 0x40, 1, UInt8.ofNat (i + 1), 2, 0, 0, 0, 0, 1, 0x08, 0,
    0x45, 0, 0, 181, 0, 0, 0x40, 0, 64, 17, 0, 0, 10, 0, 0, 1, 239, 192, 1, UInt8.ofNat (i + 1)] ++
    beBytes 2 (i + 1) ++ [0, 102, 0, 161, 0, 0, 0x01, 0x40, 0xA1, 24, 0x80, 18, 0, 0, 0, 142,
    0, 0, 0, spduNumber, 0, 2, 0, 0, 0, 0, 0, 0, 0, 0, 0, 1, 0, 0, 0, 0, 122, 0x81, 0] ++
    beBytes 2 (i + 1) ++ [0, 116] ++ sampleGooseApdu i stNum)).mem
  pktLen := 195
  olFlags := 0x80

end ProcessBus
