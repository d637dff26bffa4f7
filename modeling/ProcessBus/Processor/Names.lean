import ProcessBus.Generator.Emitted
import ProcessBus.Generator.Workers
import ProcessBus.Processor.Init

/-!
# The names of the SV streams

Both sides derive the svID of a stream from its number. The generator prints the number into an
array for four digits, while the processor formats it with four digits or more. So the names agree
as long as no stream has a number of five digits.
-/

namespace ProcessBus

open RSess RFrame

/-! ### The names the generators write -/

/-- The svID in a frame: `SVID` is part of the skeleton, a call stores what follows. -/
def SVSourceIED.svIdName (ied : SVSourceIED) : List UInt8 := ascii "SVID" ++ ied.sID

/-- The generator writes the name `s` for stream `i` in one of its frames. -/
def SVTrafficGen.WritesSvId (num : ℕ) (gen : SVTrafficGen) (i : ℕ) (s : List UInt8) : Prop :=
  i < gen.m_ieds.length ∧
    ∃ j, s = ((·.behind gen.m_freq num)^[j] (gen.m_ieds.getD i default)).svIdName

/-- Likewise for the workers of a run, each with the streams of its slice. -/
def RSVTrafficGen.WritesSvId (num : ℕ) {workers : UInt32} (streams : UInt32)
    (gens : Fin workers.toNat → RSVTrafficGen) (i : ℕ) (s : List UInt8) : Prop :=
  ∃ (w : Fin workers.toNat) (idx : UInt32) (j : ℕ),
    idx < (iedSlice streams workers (UInt32.ofNat w)).2 -
      (iedSlice streams workers (UInt32.ofNat w)).1 ∧
    i = (iedSlice streams workers (UInt32.ofNat w)).1.toNat + idx.toNat ∧
    s = ((gens w).iedIn num idx j).svIdName

/-- The svID that is registered for an APPID. -/
def RxApplication.registeredSvId (app : RxApplication) (appid : UInt16) : Option (List UInt8) :=
  (app.svSources.find? fun src => src.m_appid = appid).map SVStreamSource.m_svid

/-- The names written for `N` streams are those registered for their APPIDs, and no two streams have
the same. -/
structure SvNamesAgree (app : RxApplication) (N : ℕ) (writes : ℕ → List UInt8 → Prop) : Prop where
  agree : ∀ i < N, ∀ s, writes i s → app.registeredSvId (UInt16.ofNat (0x0001 + i)) = some s
  distinct : ∀ i < N, ∀ k < N, ∀ s, writes i s → writes k s → i = k

/-! ### The names that are registered -/

variable {N : ℕ} {app : RxApplication} {type : SvType} {conf : RxConfig}

lemma registeredSvId_of_svSources {src : ℕ → SVStreamSource}
    (happ : app.svSources = (List.range N).map src) (hN : N ≤ 65536)
    (hsrc : ∀ i, (src i).m_appid = UInt16.ofNat (0x0001 + i) ∧ (src i).m_svid = svIdName (i + 1))
    {i : ℕ} (hi : i < N) :
    app.registeredSvId (UInt16.ofNat (0x0001 + i)) = some (svIdName (i + 1)) := by
  have hfind : (List.range N).find? (fun k => (src k).m_appid = UInt16.ofNat (0x0001 + i)) =
      some i := by
    refine List.find?_range_eq_some.mpr ⟨by simp [(hsrc i).1], List.mem_range.mpr hi, ?_⟩
    intro k hk
    have hne : UInt16.ofNat (0x0001 + k) ≠ UInt16.ofNat (0x0001 + i) := fun heq => by
      have hnat := congrArg UInt16.toNat heq
      rw [toNat_appid, toNat_appid] at hnat
      omega
    simpa [(hsrc k).1] using hne
  rw [RxApplication.registeredSvId, happ, List.find?_map]
  simp only [Function.comp_def, hfind, Option.map_some, (hsrc i).2]

/-- How many SV streams of each kind there are: L2 ones of one type only. -/
def l2SvCounts (N : ℕ) : SvType → List ℕ
  | .SV80 => [N, 0, 0, 0]
  | .SV256 => [0, N, 0, 0]

/-- Routable ones of one type only. -/
def rSvCounts (N : ℕ) : SvType → List ℕ
  | .SV80 => [0, 0, N, 0]
  | .SV256 => [0, 0, 0, N]

/-- All streams of one kind are registered under their number. -/
lemma registeredSvId_init (hconf : conf.svCounts = l2SvCounts N type ∨
      conf.svCounts = rSvCounts N type) (hN : N ≤ 65536) {i : ℕ} (hi : i < N) :
    (init conf).registeredSvId (UInt16.ofNat (0x0001 + i)) = some (svIdName (i + 1)) := by
  suffices hall : ∃ (num : UInt32) (mac : ℕ → MAC) (dst : ℕ → UInt32),
      conf.allSV = (List.range N).map fun i => svSource num (mac i) (dst i) i by
    obtain ⟨num, mac, dst, hall⟩ := hall
    exact registeredSvId_of_svSources ((registered_init conf).svSources.trans hall) hN
      (fun i => ⟨rfl, rfl⟩) hi
  have hsplit : ∀ a b c d : ℕ, conf.svCounts = [a, b, c, d] → conf.allSV =
      (List.range a).map RxConfig.sv80 ++ (List.range b).map RxConfig.sv256 ++
        (List.range c).map conf.rSv80 ++ (List.range d).map conf.rSv256 := by
    intro a b c d h
    simp only [RxConfig.svCounts, List.cons.injEq, and_true] at h
    obtain ⟨rfl, rfl, rfl, rfl⟩ := h
    rfl
  cases type with
  | SV80 =>
    rcases hconf with h | h
    · exact ⟨1, fun _ => L2_SV_MAC, fun _ => 0, by simp [hsplit _ _ _ _ h, RxConfig.sv80]⟩
    · exact ⟨1, conf.rMAC, streamDstIp conf.m_rDstIP, by simp [hsplit _ _ _ _ h, RxConfig.rSv80]⟩
  | SV256 =>
    rcases hconf with h | h
    · exact ⟨8, fun _ => L2_SV_MAC, fun _ => 0, by simp [hsplit _ _ _ _ h, RxConfig.sv256]⟩
    · exact ⟨8, conf.rMAC, streamDstIp conf.m_rDstIP, by simp [hsplit _ _ _ _ h, RxConfig.rSv256]⟩

/-! ### When they agree -/

/-- The name that is written for the stream with number `i`. -/
def writtenSvId (i : ℕ) : List UInt8 := ascii "SVID" ++ printDecimal 4 (i + 1)

/-- It is the registered one if the number has four digits. -/
lemma writtenSvId_eq_iff {i : ℕ} : writtenSvId i = svIdName (i + 1) ↔ i + 1 ≤ 9999 := by
  rw [writtenSvId, svIdName, List.append_cancel_left_eq, printDecimal_eq_iff (by decide)]
  omega

lemma svIdName_injective : Function.Injective svIdName := fun _ _ h =>
  decimal_injective 4 (List.append_cancel_left h)

/-- With the names written and registered as they are, four digits are the condition. -/
lemma svNamesAgree_iff {writes : ℕ → List UInt8 → Prop} (hN : 1 ≤ N)
    (hwrites : ∀ i < N, ∀ s, writes i s ↔ s = writtenSvId i)
    (happ : ∀ i < N, app.registeredSvId (UInt16.ofNat (0x0001 + i)) = some (svIdName (i + 1))) :
    SvNamesAgree app N writes ↔ N ≤ 9999 := by
  constructor
  · intro h
    -- the last stream decides
    have hlast := h.agree (N - 1) (by omega) _ ((hwrites _ (by omega) _).mpr rfl)
    rw [happ _ (by omega), Option.some.injEq] at hlast
    have := writtenSvId_eq_iff.mp hlast.symm
    omega
  · intro hle
    have hname : ∀ i < N, writtenSvId i = svIdName (i + 1) := fun i hi =>
      writtenSvId_eq_iff.mpr (by omega)
    refine ⟨fun i hi s hs => ?_, fun i hi k hk s hs hs' => ?_⟩
    · rw [(hwrites i hi s).mp hs, hname i hi, happ i hi]
    · rw [hwrites i hi, hname i hi] at hs
      rw [hwrites k hk, hname k hk] at hs'
      exact Nat.succ_injective (svIdName_injective (hs.symm.trans hs'))

/-! ### Both generators -/

lemma writesSvId_make_iff {num : ℕ} (msg : SvMessage) {streams : UInt32} {i : ℕ}
    (hi : i < streams.toNat) (s : List UInt8) :
    (SVTrafficGen.make msg streams type).WritesSvId num i s ↔ s = writtenSvId i := by
  have hlt := streams.toNat_lt
  have hied : (SVTrafficGen.make msg streams type).m_ieds.getD i default =
      .init (UInt32.ofNat (i + 1)).toNat := by
    simp [SVTrafficGen.make, hi]
  have hname : ∀ j, ((·.behind (SVTrafficGen.make msg streams type).m_freq num)^[j]
      (SVSourceIED.init (UInt32.ofNat (i + 1)).toNat)).svIdName = writtenSvId i := fun j => by
    have hkept := kept_iterate (@SVSourceIED.sID_behind type.freq num)
      (.init (UInt32.ofNat (i + 1)).toNat) j
    rw [SVSourceIED.svIdName, writtenSvId]
    refine congrArg (ascii "SVID" ++ ·) (hkept.trans ?_)
    rw [SVSourceIED.init, UInt32.toNat_ofNat', Nat.mod_eq_of_lt (by omega)]
  simp only [SVTrafficGen.WritesSvId, hied, hname]
  simp [SVTrafficGen.make, hi]

lemma writesSvId_workers_iff {num : ℕ} {msg : SvMessage} {cfg : RFrameConfig} {crypto : Crypto}
    {streams workers : UInt32} {gens : Fin workers.toNat → RSVTrafficGen} (hworkers : 1 ≤ workers)
    (hgens : ∀ w, makeRWorkers workers streams (fun lo count =>
      RSVTrafficGen.make msg cfg crypto type count lo) w = some (gens w))
    {i : ℕ} (hi : i < streams.toNat) (s : List UInt8) :
    RSVTrafficGen.WritesSvId num streams gens i s ↔ s = writtenSvId i := by
  have hlt := streams.toNat_lt
  have hname : ∀ (w : Fin workers.toNat) (idx : UInt32) (j : ℕ),
      idx < (iedSlice streams workers (UInt32.ofNat w)).2 -
        (iedSlice streams workers (UInt32.ofNat w)).1 →
      i = (iedSlice streams workers (UInt32.ofNat w)).1.toNat + idx.toNat →
      ((gens w).iedIn num idx j).svIdName = writtenSvId i := fun w idx j hidx heq => by
    rw [SVSourceIED.svIdName, writtenSvId, (RSVTrafficGen.iedIn_of_make num (hgens w) hidx j).1,
      ← heq, UInt32.toNat_ofNat', Nat.mod_eq_of_lt (by omega)]
  constructor
  · rintro ⟨w, idx, j, hidx, heq, rfl⟩
    exact hname w idx j hidx heq
  · rintro rfl
    obtain ⟨w, idx, hidx, heq⟩ := exists_iedSlice hworkers hi
    exact ⟨w, idx, 0, hidx, heq, (hname w idx 0 hidx heq).symm⟩

/-- The names of at most 65535 streams agree if and only if none has a number of five digits. -/
theorem sv_names_agree_iff (streams : UInt32) (hpos : 1 ≤ streams.toNat)
    (hle : streams.toNat ≤ 65535) (type : SvType) (msg : SvMessage) (conf : RxConfig) :
    (conf.svCounts = l2SvCounts streams.toNat type →
      (SvNamesAgree (init conf) streams.toNat
          ((SVTrafficGen.make msg streams type).WritesSvId type.asduNum) ↔
        streams.toNat ≤ 9999)) ∧
    (conf.svCounts = rSvCounts streams.toNat type →
      ∀ (cfg : RFrameConfig) (crypto : Crypto) (workers : UInt32), 1 ≤ workers →
      ∀ gens, (∀ w, makeRWorkers workers streams (fun lo count =>
        RSVTrafficGen.make msg cfg crypto type count lo) w = some (gens w)) →
      (SvNamesAgree (init conf) streams.toNat
          (RSVTrafficGen.WritesSvId type.asduNum streams gens) ↔
        streams.toNat ≤ 9999)) := by
  constructor
  · intro hconf
    exact svNamesAgree_iff hpos (fun _ hi s => writesSvId_make_iff msg hi s) fun _ hi =>
      registeredSvId_init (.inl hconf) (by omega) hi
  · intro hconf cfg crypto workers hworkers gens hgens
    exact svNamesAgree_iff hpos (fun _ hi s => writesSvId_workers_iff hworkers hgens hi s)
      fun _ hi => registeredSvId_init (.inr hconf) (by omega) hi

/-- Twelve streams of each generator, the routable ones shared by two workers. -/
theorem sv_names_agree_iff_twelve :
    SvNamesAgree (init { m_confSV80Num := 12 }) 12
        ((SVTrafficGen.make (sampleSvMessage .SV80) 12 .SV80).WritesSvId 1) ∧
      ∃ gens : Fin (2 : UInt32).toNat → RSVTrafficGen,
        SvNamesAgree (init { m_confRSV80Num := 12 }) 12
          (RSVTrafficGen.WritesSvId 1 12 gens) := by
  have hmake : ∀ w, (makeRWorkers 2 12 (fun lo count => RSVTrafficGen.make (sampleSvMessage .SV80)
      {} sampleRunCrypto .SV80 count lo) w).isSome := by decide +kernel
  choose gens hgens using fun w => Option.isSome_iff_exists.mp (hmake w)
  have hl2 := (sv_names_agree_iff 12 (by decide) (by decide) .SV80 (sampleSvMessage .SV80)
    { m_confSV80Num := 12 }).1 rfl
  have hr := (sv_names_agree_iff 12 (by decide) (by decide) .SV80 (sampleSvMessage .SV80)
    { m_confRSV80Num := 12 }).2 rfl {} sampleRunCrypto 2 (by decide) gens hgens
  exact ⟨hl2.mpr (by decide), gens, hr.mpr (by decide)⟩

/-- Of 10000 streams the last is written with the name of stream 999, but registered with one of its
own. -/
theorem sv_names_disagree :
    let gen := SVTrafficGen.make (sampleSvMessage .SV80) 10000 .SV80
    (gen.WritesSvId 1 9999 (ascii "SVID1000") ∧ gen.WritesSvId 1 999 (ascii "SVID1000")) ∧
      (init { m_confSV80Num := 10000 }).registeredSvId 10000 = some (ascii "SVID10000") ∧
      ¬ SvNamesAgree (init { m_confSV80Num := 10000 }) 10000 (gen.WritesSvId 1) := by
  intro gen
  have hlast : gen.WritesSvId 1 9999 (ascii "SVID1000") :=
    (writesSvId_make_iff _ (by decide) _).mpr (by decide +kernel)
  have hother : gen.WritesSvId 1 999 (ascii "SVID1000") :=
    (writesSvId_make_iff _ (by decide) _).mpr (by decide +kernel)
  have hregistered : (init { m_confSV80Num := 10000 }).registeredSvId
      (UInt16.ofNat (0x0001 + 9999)) = some (svIdName (9999 + 1)) :=
    @registeredSvId_init 10000 .SV80 _ (.inl rfl) (by decide) 9999 (by decide)
  refine ⟨⟨hlast, hother⟩, hregistered.trans (congrArg some (by decide +kernel)), fun h => ?_⟩
  exact absurd (h.distinct 9999 (by decide) 999 (by decide) _ hlast hother) (by decide)

end ProcessBus
