import BundleFramework.Base.Str

/-!
# The order in which bundles age

`AgingUtil::SortAgingBundles` gives `SortTwoAgingBundleInfos` to `std::sort`, and the
comparator reads the clock at every call.  At one reading its answers are those of a strict
weak order (`sortTwoAgingBundleInfos_iff`): bundles that are not delayed first, then by usage
bucket, start count and last use.  Between two readings a bundle may cross into another
bucket.  For every list of bundles and every list of readings:

    whatever the sort compares, its answers are those of one order
      ↔ no two bundles that start count and last use order differently share
        a bucket at one reading and not at another            (sortsByOneOrder_iff)
-/

namespace BundleFramework.Aging

open Function

/-! ## Algorithm

Times are in milliseconds.  A day length comes from `atoi` or is `ONE_DAYS_MS`, so that the
64-bit differences below do not overflow. -/

def TIME_10_DAYS : Int := 10
def TIME_20_DAYS : Int := 20
def TIME_30_DAYS : Int := 30
def ONE_DAYS_MS : Int := 24 * (60 * 60 * 1000)

structure AgingBundleInfo where
  bundleName : Str
  recentlyUsedTime : Int
  startCount : Int
  isDelayAging : Bool
  deriving DecidableEq

variable (oneDayTimeMs : Int)

def getUnusedTimeMsBaseOnCurrentTime (currentTimeMs days : Int) : Int := currentTimeMs - days * oneDayTimeMs

/-- The two bundles were last used in the same span of days. -/
def sortByUseTimes (currentTimeMs : Int) (bundle1 bundle2 : AgingBundleInfo) : Bool :=
  let time10DaysAgo := getUnusedTimeMsBaseOnCurrentTime oneDayTimeMs currentTimeMs TIME_10_DAYS
  let time20DaysAgo := getUnusedTimeMsBaseOnCurrentTime oneDayTimeMs currentTimeMs TIME_20_DAYS
  let time30DaysAgo := getUnusedTimeMsBaseOnCurrentTime oneDayTimeMs currentTimeMs TIME_30_DAYS
  (bundle1.recentlyUsedTime ≥ time10DaysAgo && bundle2.recentlyUsedTime ≥ time10DaysAgo) ||
  (bundle1.recentlyUsedTime < time10DaysAgo && bundle1.recentlyUsedTime ≥ time20DaysAgo &&
    bundle2.recentlyUsedTime < time10DaysAgo && bundle2.recentlyUsedTime ≥ time20DaysAgo) ||
  (bundle1.recentlyUsedTime < time20DaysAgo && bundle1.recentlyUsedTime ≥ time30DaysAgo &&
    bundle2.recentlyUsedTime < time20DaysAgo && bundle2.recentlyUsedTime ≥ time30DaysAgo) ||
  (bundle1.recentlyUsedTime < time30DaysAgo && bundle2.recentlyUsedTime < time30DaysAgo)

/-- `currentTimeMs` is what the clock says at this call. -/
def sortTwoAgingBundleInfos (currentTimeMs : Int) (bundle1 bundle2 : AgingBundleInfo) : Bool :=
  if bundle1.isDelayAging && !bundle2.isDelayAging then false
  else if !bundle1.isDelayAging && bundle2.isDelayAging then true
  else if sortByUseTimes oneDayTimeMs currentTimeMs bundle1 bundle2 && bundle1.startCount ≠ bundle2.startCount then
    bundle1.startCount < bundle2.startCount
  else bundle1.recentlyUsedTime < bundle2.recentlyUsedTime

/-- One call of the comparator. -/
structure Comparison where
  currentTimeMs : Int
  bundle1 : AgingBundleInfo
  bundle2 : AgingBundleInfo

def Comparison.answer (c : Comparison) : Bool :=
  sortTwoAgingBundleInfos oneDayTimeMs c.currentTimeMs c.bundle1 c.bundle2

/-! ## The order at one reading -/

/-- 0 for over 30 days, 1 for 20 to 30, 2 for 10 to 20, 3 for under 10 days. -/
def bucket (currentTimeMs : Int) (bundle : AgingBundleInfo) : Nat :=
  if bundle.recentlyUsedTime < getUnusedTimeMsBaseOnCurrentTime oneDayTimeMs currentTimeMs TIME_30_DAYS then 0
  else if bundle.recentlyUsedTime < getUnusedTimeMsBaseOnCurrentTime oneDayTimeMs currentTimeMs TIME_20_DAYS then 1
  else if bundle.recentlyUsedTime < getUnusedTimeMsBaseOnCurrentTime oneDayTimeMs currentTimeMs TIME_10_DAYS then 2
  else 3

def agingKey (currentTimeMs : Int) (bundle : AgingBundleInfo) : Bool ×ₗ Nat ×ₗ Int ×ₗ Int :=
  toLex (bundle.isDelayAging, toLex (bucket oneDayTimeMs currentTimeMs bundle,
    toLex (bundle.startCount, bundle.recentlyUsedTime)))

/-- Not delayed before delayed, then the older bucket, the smaller start count, the earlier
last use. -/
def Before (currentTimeMs : Int) : AgingBundleInfo → AgingBundleInfo → Prop :=
  (· < ·) on agingKey oneDayTimeMs currentTimeMs

instance (currentTimeMs : Int) : IsStrictWeakOrder AgingBundleInfo (Before oneDayTimeMs currentTimeMs) where
  irrefl _ := lt_irrefl _
  trans _ _ _ := lt_trans
  incomp_trans _ _ _ hab hbc := by
    have hkeys : ∀ {x y}, ¬ Before oneDayTimeMs currentTimeMs x y ∧ ¬ Before oneDayTimeMs currentTimeMs y x →
        agingKey oneDayTimeMs currentTimeMs x = agingKey oneDayTimeMs currentTimeMs y :=
      fun h => le_antisymm (not_lt.mp h.2) (not_lt.mp h.1)
    have hac := (hkeys hab).trans (hkeys hbc)
    exact ⟨fun h => h.ne hac, fun h => h.ne hac.symm⟩

variable {oneDayTimeMs}

theorem before_iff {currentTimeMs : Int} {a b : AgingBundleInfo} :
    Before oneDayTimeMs currentTimeMs a b ↔ (a.isDelayAging = false ∧ b.isDelayAging = true) ∨
      a.isDelayAging = b.isDelayAging ∧
        (bucket oneDayTimeMs currentTimeMs a < bucket oneDayTimeMs currentTimeMs b ∨
          bucket oneDayTimeMs currentTimeMs a = bucket oneDayTimeMs currentTimeMs b ∧
            (a.startCount < b.startCount ∨ a.startCount = b.startCount ∧ a.recentlyUsedTime < b.recentlyUsedTime)) := by
  simp [Before, Function.onFun, agingKey, Prod.Lex.toLex_lt_toLex, Bool.lt_iff]

/-- The bucket follows the last use. -/
theorem bucket_mono {currentTimeMs : Int} {a b : AgingBundleInfo}
    (h : a.recentlyUsedTime ≤ b.recentlyUsedTime) :
    bucket oneDayTimeMs currentTimeMs a ≤ bucket oneDayTimeMs currentTimeMs b := by
  unfold bucket getUnusedTimeMsBaseOnCurrentTime TIME_10_DAYS TIME_20_DAYS TIME_30_DAYS
  split_ifs <;> omega

theorem sortByUseTimes_iff (hday : 0 < oneDayTimeMs) {currentTimeMs : Int} {a b : AgingBundleInfo} :
    sortByUseTimes oneDayTimeMs currentTimeMs a b = true ↔
      bucket oneDayTimeMs currentTimeMs a = bucket oneDayTimeMs currentTimeMs b := by
  have h20 : getUnusedTimeMsBaseOnCurrentTime oneDayTimeMs currentTimeMs TIME_20_DAYS <
      getUnusedTimeMsBaseOnCurrentTime oneDayTimeMs currentTimeMs TIME_10_DAYS := by
    unfold getUnusedTimeMsBaseOnCurrentTime TIME_10_DAYS TIME_20_DAYS
    omega
  have h30 : getUnusedTimeMsBaseOnCurrentTime oneDayTimeMs currentTimeMs TIME_30_DAYS <
      getUnusedTimeMsBaseOnCurrentTime oneDayTimeMs currentTimeMs TIME_20_DAYS := by
    unfold getUnusedTimeMsBaseOnCurrentTime TIME_20_DAYS TIME_30_DAYS
    omega
  unfold sortByUseTimes bucket
  simp only [Bool.or_eq_true, Bool.and_eq_true, decide_eq_true_eq]
  split_ifs <;> grind

/-- **One reading, one order**: the comparator decides `Before`. -/
theorem sortTwoAgingBundleInfos_iff (hday : 0 < oneDayTimeMs) {currentTimeMs : Int} {a b : AgingBundleInfo} :
    sortTwoAgingBundleInfos oneDayTimeMs currentTimeMs a b = true ↔ Before oneDayTimeMs currentTimeMs a b := by
  have hsame := @sortByUseTimes_iff oneDayTimeMs hday currentTimeMs a b
  have hle := @bucket_mono oneDayTimeMs currentTimeMs a b
  have hge := @bucket_mono oneDayTimeMs currentTimeMs b a
  rw [before_iff]
  unfold sortTwoAgingBundleInfos
  cases ha : a.isDelayAging with
  | false =>
    cases hb : b.isDelayAging with
    | false => grind
    | true => simp
  | true =>
    cases hb : b.isDelayAging with
    | false => simp
    | true => grind

/-! ## The answers of a sort -/

/-- The answers are those of one order: the strict weak order of some reading. -/
def OneOrder (oneDayTimeMs : Int) (comparisons : List Comparison) : Prop :=
  ∃ currentTimeMs, IsStrictWeakOrder AgingBundleInfo (Before oneDayTimeMs currentTimeMs) ∧
    ∀ c ∈ comparisons, c.answer oneDayTimeMs = true ↔ Before oneDayTimeMs currentTimeMs c.bundle1 c.bundle2

/-- A sort of `bundles` may compare any two of them, and reads the clock each time. -/
structure MadeBySort (bundles : List AgingBundleInfo) (readings : List Int) (comparisons : List Comparison) : Prop where
  bundles : ∀ c ∈ comparisons, c.bundle1 ∈ bundles ∧ c.bundle2 ∈ bundles
  readings : comparisons.map (·.currentTimeMs) = readings

def SortsByOneOrder (oneDayTimeMs : Int) (bundles : List AgingBundleInfo) (readings : List Int) : Prop :=
  ∀ comparisons, MadeBySort bundles readings comparisons → OneOrder oneDayTimeMs comparisons

/-- The longer unused of two bundles has the larger start count, and a boundary of the buckets
lies between them at one of the readings only. -/
structure Straddled (oneDayTimeMs t t' : Int) (a b : AgingBundleInfo) : Prop where
  delay : a.isDelayAging = b.isDelayAging
  time : a.recentlyUsedTime < b.recentlyUsedTime
  count : b.startCount < a.startCount
  together : bucket oneDayTimeMs t a = bucket oneDayTimeMs t b
  apart : bucket oneDayTimeMs t' a ≠ bucket oneDayTimeMs t' b

def Settled (oneDayTimeMs : Int) (bundles : List AgingBundleInfo) (readings : List Int) : Prop :=
  ∀ a ∈ bundles, ∀ b ∈ bundles, ∀ t ∈ readings, ∀ t' ∈ readings, ¬ Straddled oneDayTimeMs t t' a b

/-- A reading puts the bundles in the same order as another one, if it straddles none. -/
theorem before_of_not_straddled {t t' : Int} {a b : AgingBundleInfo} (hab : ¬ Straddled oneDayTimeMs t' t a b)
    (hba : ¬ Straddled oneDayTimeMs t t' b a) (h : Before oneDayTimeMs t a b) : Before oneDayTimeMs t' a b := by
  have hle := @bucket_mono oneDayTimeMs t a b
  have hge := @bucket_mono oneDayTimeMs t b a
  have hle' := @bucket_mono oneDayTimeMs t' a b
  have hge' := @bucket_mono oneDayTimeMs t' b a
  rw [before_iff] at h ⊢
  rcases h with hdelay | ⟨hdelay, hrest⟩
  · exact .inl hdelay
  · refine .inr ⟨hdelay, ?_⟩
    rcases lt_trichotomy a.recentlyUsedTime b.recentlyUsedTime with htime | htime | htime
    · -- only a larger start count could undo the order of the last uses
      by_cases hcount : b.startCount < a.startCount
      · have htogether : bucket oneDayTimeMs t' a = bucket oneDayTimeMs t' b →
            bucket oneDayTimeMs t a = bucket oneDayTimeMs t b := by
          intro heq
          by_contra hne
          exact hab ⟨hdelay, htime, hcount, heq, hne⟩
        omega
      · omega
    · omega
    · have hcount : a.startCount < b.startCount := by omega
      have htogether : bucket oneDayTimeMs t b = bucket oneDayTimeMs t a →
          bucket oneDayTimeMs t' b = bucket oneDayTimeMs t' a := by
        intro heq
        by_contra hne
        exact hba ⟨hdelay.symm, htime, hcount, heq, hne⟩
      omega

/-- Compared at both readings, two straddled bundles come first in turn. -/
theorem not_oneOrder_of_straddled (hday : 0 < oneDayTimeMs) {t t' : Int} {a b : AgingBundleInfo}
    (h : Straddled oneDayTimeMs t t' a b) {comparisons : List Comparison} (hc : ⟨t, a, b⟩ ∈ comparisons)
    (hc' : ⟨t', a, b⟩ ∈ comparisons) : ¬ OneOrder oneDayTimeMs comparisons := by
  rintro ⟨now, -, hanswers⟩
  have hlater : ¬ Before oneDayTimeMs t a b := by
    rw [before_iff]
    have := h.together
    have := h.count
    have := h.delay
    rintro (⟨ha, hb⟩ | ⟨-, hrest⟩)
    · simp_all
    · omega
  have hfirst : Before oneDayTimeMs t' a b := by
    rw [before_iff]
    have := @bucket_mono oneDayTimeMs t' a b h.time.le
    have := h.apart
    exact .inr ⟨h.delay, by omega⟩
  have hnow := (hanswers _ hc').mp ((sortTwoAgingBundleInfos_iff hday).mpr hfirst)
  exact hlater ((sortTwoAgingBundleInfos_iff hday).mp ((hanswers _ hc).mpr hnow))

/-- **When a sort has one order**: for every list of bundles and all readings of the clock. -/
theorem sortsByOneOrder_iff (hday : 0 < oneDayTimeMs) (bundles : List AgingBundleInfo) (readings : List Int) :
    SortsByOneOrder oneDayTimeMs bundles readings ↔ Settled oneDayTimeMs bundles readings := by
  constructor
  · intro h a ha b hb t ht t' ht' hstraddled
    -- a sort that compares the two bundles at every reading
    have hmade : MadeBySort bundles readings (readings.map fun reading => ⟨reading, a, b⟩) := by
      refine ⟨fun c hc => ?_, by rw [List.map_map]; exact List.map_id readings⟩
      obtain ⟨reading, -, rfl⟩ := List.mem_map.mp hc
      exact ⟨ha, hb⟩
    exact not_oneOrder_of_straddled hday hstraddled (List.mem_map.mpr ⟨t, ht, rfl⟩)
      (List.mem_map.mpr ⟨t', ht', rfl⟩) (h _ hmade)
  · intro h comparisons hmade
    cases readings with
    | nil =>
      have hnil : comparisons = [] := List.map_eq_nil_iff.mp hmade.readings
      exact ⟨0, inferInstance, by simp [hnil]⟩
    | cons now readings =>
      refine ⟨now, inferInstance, fun c hc => ?_⟩
      have hreading : c.currentTimeMs ∈ now :: readings :=
        hmade.readings ▸ List.mem_map_of_mem hc
      have hnow : now ∈ now :: readings := List.mem_cons_self
      obtain ⟨h1, h2⟩ := hmade.bundles c hc
      rw [Comparison.answer, sortTwoAgingBundleInfos_iff hday]
      constructor
      · exact before_of_not_straddled (h _ h1 _ h2 _ hnow _ hreading) (h _ h2 _ h1 _ hreading _ hnow)
      · exact before_of_not_straddled (h _ h1 _ h2 _ hreading _ hnow) (h _ h2 _ h1 _ hnow _ hreading)

/-- A clock that stands still settles the order. -/
theorem settled_of_constant {now : Int} {bundles : List AgingBundleInfo} {readings : List Int}
    (h : ∀ t ∈ readings, t = now) : Settled oneDayTimeMs bundles readings := by
  intro a _ b _ t ht t' ht' hstraddled
  rw [h t ht, h t' ht'] at hstraddled
  exact hstraddled.apart hstraddled.together

/-- Used ten days before the first reading, and started most often. -/
def oftenStarted : AgingBundleInfo := ⟨['c'], 10 * ONE_DAYS_MS, 3, false⟩

def agingSample : List AgingBundleInfo :=
  [⟨['a'], 15 * ONE_DAYS_MS, 1, false⟩, ⟨['b'], 15 * ONE_DAYS_MS, 2, false⟩, oftenStarted]

/-- The clock stands still between two comparisons. -/
theorem sortsByOneOrder_iff_still :
    SortsByOneOrder ONE_DAYS_MS agingSample [20 * ONE_DAYS_MS, 20 * ONE_DAYS_MS] :=
  (sortsByOneOrder_iff (by decide) agingSample [20 * ONE_DAYS_MS, 20 * ONE_DAYS_MS]).mpr
    (@settled_of_constant ONE_DAYS_MS (20 * ONE_DAYS_MS) _ _ (by simp))

/-- Three comparisons; the clock goes on by a millisecond before the last one. -/
def roundTrip : List Comparison :=
  [⟨20 * ONE_DAYS_MS, ⟨['a'], 15 * ONE_DAYS_MS, 1, false⟩, ⟨['b'], 15 * ONE_DAYS_MS, 2, false⟩⟩,
    ⟨20 * ONE_DAYS_MS, ⟨['b'], 15 * ONE_DAYS_MS, 2, false⟩, oftenStarted⟩,
    ⟨20 * ONE_DAYS_MS + 1, oftenStarted, ⟨['a'], 15 * ONE_DAYS_MS, 1, false⟩⟩]

/-- **A cycle**: each of the three bundles comes before the next one, in no strict order. -/
theorem aging_cycle :
    MadeBySort agingSample [20 * ONE_DAYS_MS, 20 * ONE_DAYS_MS, 20 * ONE_DAYS_MS + 1] roundTrip ∧
    (∀ c ∈ roundTrip, c.answer ONE_DAYS_MS = true) ∧
    (¬ ∃ r : AgingBundleInfo → AgingBundleInfo → Prop, IsStrictWeakOrder AgingBundleInfo r ∧
      ∀ c ∈ roundTrip, c.answer ONE_DAYS_MS = true ↔ r c.bundle1 c.bundle2) ∧
    ¬ SortsByOneOrder ONE_DAYS_MS agingSample [20 * ONE_DAYS_MS, 20 * ONE_DAYS_MS, 20 * ONE_DAYS_MS + 1] := by
  have hmade : MadeBySort agingSample [20 * ONE_DAYS_MS, 20 * ONE_DAYS_MS, 20 * ONE_DAYS_MS + 1] roundTrip :=
    ⟨by decide, by decide⟩
  have hanswers : ∀ c ∈ roundTrip, c.answer ONE_DAYS_MS = true := by decide
  have hcycle : ∀ r : AgingBundleInfo → AgingBundleInfo → Prop, IsStrictWeakOrder AgingBundleInfo r →
      ¬ ∀ c ∈ roundTrip, c.answer ONE_DAYS_MS = true ↔ r c.bundle1 c.bundle2 := by
    intro r hr h
    simp only [roundTrip, List.forall_mem_cons] at h hanswers
    obtain ⟨hab, hbc, hca, -⟩ := h
    have hac := hr.trans _ _ _ (hab.mp hanswers.1) (hbc.mp hanswers.2.1)
    exact hr.irrefl _ (hr.trans _ _ _ hac (hca.mp hanswers.2.2.1))
  refine ⟨hmade, hanswers, fun ⟨r, hr, h⟩ => hcycle r hr h, fun h => ?_⟩
  obtain ⟨now, hr, hnow⟩ := h _ hmade
  exact hcycle _ hr hnow

end BundleFramework.Aging
