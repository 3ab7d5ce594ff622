import ApexEdge.Proofs.PromoShares

/-! What promotions take off is shared out in full, and nobody is given more than it costs,
as long as the last line of each of them has room for what rounding leaves. -/

namespace ApexEdge.Proofs.ExactPromos
open Library Payment Domain Promotions Handout PromoShares

variable (lines : List CartLineItem) (categoryByItem : Uuid → Uuid) (subtotalCents : Nat) (now : Timestamp)

def step (progress : LineAmounts × List Uuid) (promo : Promotion) : LineAmounts × List Uuid :=
  applyPromo lines categoryByItem subtotalCents now progress promo

def receivedIn (progress : LineAmounts × List Uuid) (promo : Promotion) (line : CartLineItem) : Nat :=
  received progress.1 (step lines categoryByItem subtotalCents now progress promo).1 line.lineId

/-- The lines that a promotion is for receive together what it is to take off. -/
def SharedOut (progress : LineAmounts × List Uuid) (promo : Promotion) : Prop :=
  applies lines categoryByItem subtotalCents now promo →
    ((eligibleLines lines categoryByItem promo).map
      (receivedIn lines categoryByItem subtotalCents now progress promo)).sum =
        discountOf lines categoryByItem progress.1.totals promo

/-- What a line receives of promotions that are applied one after the other. -/
def receivedOf (progress : LineAmounts × List Uuid) (promos : List Promotion) (line : CartLineItem) : Nat :=
  match promos with
  | [] => 0
  | promo :: promos => receivedIn lines categoryByItem subtotalCents now progress promo line +
      receivedOf (step lines categoryByItem subtotalCents now progress promo) promos line

def lowers (progress : LineAmounts × List Uuid) (promo : Promotion) : Bool :=
  lines.any fun line =>
    (step lines categoryByItem subtotalCents now progress promo).1.totals line.lineId < progress.1.totals line.lineId

/-- The promotions that lower some line. -/
def lowering (progress : LineAmounts × List Uuid) (promos : List Promotion) : List Uuid :=
  match promos with
  | [] => []
  | promo :: promos => (if lowers lines categoryByItem subtotalCents now progress promo then [promo.id] else []) ++
      lowering (step lines categoryByItem subtotalCents now progress promo) promos

/-- Conservative and exact allocation of all promotions, from the beginning. -/
structure AllocatedExactly (promos : List Promotion) : Prop where
  shared : Sequence.Meets (step lines categoryByItem subtotalCents now)
    (SharedOut lines categoryByItem subtotalCents now) (LineAmounts.ofLines lines, []) (byPriority promos)
  within : ∀ line ∈ lines, receivedOf lines categoryByItem subtotalCents now (LineAmounts.ofLines lines, [])
    (byPriority promos) line ≤ line.lineTotalCents
  noted : (applyPromosWithAttribution lines categoryByItem promos subtotalCents now).2 =
    lowering lines categoryByItem subtotalCents now (LineAmounts.ofLines lines, []) (byPriority promos)

/-- What the last line can take: all it still costs, or nothing if no cent of it counts. -/
def room (totals : Uuid → Nat) (last : CartLineItem × Nat) : Nat :=
  if eligibleCents totals last = 0 then 0 else totals (partId last)

/-- The rounded parts of all lines but the last and the room of the last one cover the discount. -/
def Covered (progress : LineAmounts × List Uuid) (promo : Promotion) : Prop :=
  let totals := progress.1.totals
  let discount := discountOf lines categoryByItem totals promo
  let capped := cappedOf lines categoryByItem totals promo
  applies lines categoryByItem subtotalCents now promo →
    discount ≤ (capped.dropLast.map (want totals discount (eligibleOf lines categoryByItem totals promo))).sum +
      (capped.getLast?.elim 0 (room totals))

instance (progress : LineAmounts × List Uuid) (promo : Promotion) :
    Decidable (Covered lines categoryByItem subtotalCents now progress promo) :=
  inferInstanceAs (Decidable (_ → _))

variable {lines : List CartLineItem} {categoryByItem : Uuid → Uuid} {subtotalCents : Nat} {now : Timestamp}
  {progress : LineAmounts × List Uuid} {promo : Promotion} {promos : List Promotion}

section Shares
variable {totals : Uuid → Nat} {totalDiscount eligibleTotal : Nat} {capped : List (CartLineItem × Nat)}

/-- The shares of a discount are all of it, and no more than each line costs, when it is covered. -/
theorem shares_exact_iff (units : ∀ part ∈ capped, part.2 ≤ part.1.quantity) (some : capped = [] → totalDiscount = 0) :
    (shares totals totalDiscount eligibleTotal totalDiscount capped).sum = totalDiscount ∧
        (∀ part share, (part, share) ∈ capped.zip (shares totals totalDiscount eligibleTotal totalDiscount capped) →
          share ≤ totals (partId part)) ↔
      totalDiscount ≤ (capped.dropLast.map (want totals totalDiscount eligibleTotal)).sum +
        capped.getLast?.elim 0 (room totals) := by
  rcases List.eq_nil_or_concat capped with rfl | ⟨front, last, rfl⟩
  · simp [shares, some rfl]
  · have wanted : ∀ part ∈ front, want totals totalDiscount eligibleTotal part ≤ totals (partId part) := by
      intro part member
      have part_of := @PromoAllocation.eligibleCents_le ⟨fun _ => 0, totals⟩ part (units part (by simp [member]))
      exact (Nat.min_le_right _ _).trans part_of
    have fronts : ∀ part share, (part, share) ∈ front.zip (served totalDiscount
        (front.map (want totals totalDiscount eligibleTotal))) → share ≤ totals (partId part) := by
      intro part share member
      exact (served_le member).trans (wanted part (List.of_mem_zip member).1)
    rw [List.concat_eq_append, shares_concat, List.dropLast_concat, List.getLast?_concat, List.sum_append, served_sum,
      List.zip_append (by simp)]
    simp only [List.mem_append, List.zip_cons_cons, List.zip_nil_right, List.mem_singleton, List.sum_singleton,
      Option.elim_some, room]
    by_cases worthless : eligibleCents totals last = 0
    · simp only [worthless, if_true]
      refine ⟨fun exact => by omega, fun covers => ⟨by omega, ?_⟩⟩
      rintro part share (before | here)
      · exact fronts part share before
      · obtain ⟨rfl, rfl⟩ := Prod.mk.inj here
        exact Nat.zero_le _
    · simp only [worthless, if_false]
      constructor
      · rintro ⟨_, bears⟩
        have own := bears last _ (Or.inr rfl)
        omega
      · intro covers
        refine ⟨by omega, ?_⟩
        rintro part share (before | here)
        · exact fronts part share before
        · obtain ⟨rfl, rfl⟩ := Prod.mk.inj here
          omega

end Shares

section Step

theorem discounts_fit (priced : ∀ line ∈ lines, line.lineTotalCents ≤ u64Max) (balanced : Balanced lines progress.1)
    {line : CartLineItem} (member : line ∈ lines) : progress.1.discounts line.lineId ≤ u64Max := by
  have equal := balanced line member
  have fits := priced line member
  omega

theorem capped_zip {part : CartLineItem × Nat} (member : part ∈ cappedOf lines categoryByItem progress.1.totals promo) :
    ∃ share, (part, share) ∈ (cappedOf lines categoryByItem progress.1.totals promo).zip
      (sharesOf lines categoryByItem progress.1.totals promo) :=
  zip_of_mem (by simp [sharesOf]) member

/-- A promotion that does not apply, or not to a line, gives it nothing. -/
theorem receivedIn_none {line : CartLineItem}
    (off : applies lines categoryByItem subtotalCents now promo = true →
      line.lineId ∉ (cappedOf lines categoryByItem progress.1.totals promo).map partId) :
    receivedIn lines categoryByItem subtotalCents now progress promo line = 0 := received_unreached off

theorem step_line (distinct : (lines.map CartLineItem.lineId).Nodup)
    (priced : ∀ line ∈ lines, line.lineTotalCents ≤ u64Max) (balanced : Balanced lines progress.1)
    {line : CartLineItem} (member : line ∈ lines) :
    (step lines categoryByItem subtotalCents now progress promo).1.totals line.lineId =
        progress.1.totals line.lineId - receivedIn lines categoryByItem subtotalCents now progress promo line ∧
      (step lines categoryByItem subtotalCents now progress promo).1.discounts line.lineId =
        wrap64 (progress.1.discounts line.lineId +
          receivedIn lines categoryByItem subtotalCents now progress promo line) := by
  have fits := discounts_fit priced balanced member
  by_cases reached : applies lines categoryByItem subtotalCents now promo = true ∧
      line.lineId ∈ (cappedOf lines categoryByItem progress.1.totals promo).map partId
  · obtain ⟨applied, listed⟩ := reached
    obtain ⟨part, capped, same⟩ := List.mem_map.mp listed
    obtain ⟨share, given⟩ := capped_zip capped
    have amounts := @applyPromo_share _ _ subtotalCents now _ _ distinct applied _ _ (same ▸ fits) given
    have received := @received_share _ _ subtotalCents now _ _ distinct applied _ _ (same ▸ fits) given
    rw [same] at amounts received
    unfold receivedIn step
    rw [received]
    exact amounts
  · rw [receivedIn_none fun applied listed => reached ⟨applied, listed⟩, Nat.sub_zero, Nat.add_zero, wrap64_of_fits fits]
    exact applyPromo_unreached fun applied listed => reached ⟨applied, listed⟩

theorem received_sum (distinct : (lines.map CartLineItem.lineId).Nodup)
    (priced : ∀ line ∈ lines, line.lineTotalCents ≤ u64Max) (balanced : Balanced lines progress.1)
    (applied : applies lines categoryByItem subtotalCents now promo = true) :
    ((eligibleLines lines categoryByItem promo).map
      (receivedIn lines categoryByItem subtotalCents now progress promo)).sum =
        (sharesOf lines categoryByItem progress.1.totals promo).sum := by
  have everywhere := @sum_eligible lines categoryByItem progress.1.totals promo distinct
    (fun id => received progress.1 (step lines categoryByItem subtotalCents now progress promo).1 id)
    fun id other => received_unreached fun _ => other
  refine everywhere.trans (congrArg List.sum ?_)
  refine map_of_zip (by simp [sharesOf]) fun part share given => ?_
  have listed := capped_lines (List.of_mem_zip given).1
  exact received_share distinct applied (discounts_fit priced balanced listed) given

/-- A step is covered when it shares out its discount, and gives no line more than it costs. -/
theorem covered_iff (distinct : (lines.map CartLineItem.lineId).Nodup)
    (priced : ∀ line ∈ lines, line.lineTotalCents ≤ u64Max) (balanced : Balanced lines progress.1) :
    Covered lines categoryByItem subtotalCents now progress promo ↔
      SharedOut lines categoryByItem subtotalCents now progress promo ∧ ∀ line ∈ lines,
        receivedIn lines categoryByItem subtotalCents now progress promo line ≤ progress.1.totals line.lineId := by
  cases applied : applies lines categoryByItem subtotalCents now promo with
  | false =>
    refine iff_of_true (fun clash => by simp [applied] at clash) ⟨fun clash => by simp [applied] at clash, ?_⟩
    intro line _
    rw [receivedIn_none fun clash => by simp [applied] at clash]
    exact Nat.zero_le _
  | true =>
    have exact := @shares_exact_iff progress.1.totals (discountOf lines categoryByItem progress.1.totals promo)
      (eligibleOf lines categoryByItem progress.1.totals promo) (cappedOf lines categoryByItem progress.1.totals promo)
      PromoAllocation.capUnits_le fun none => discountOf_worthless (by simp [eligibleOf, none, wrap64])
    unfold Covered SharedOut
    simp only [applied, forall_const]
    rw [← exact, received_sum distinct priced balanced applied]
    refine and_congr_right fun _ => ⟨fun bears line member => ?_, fun bears part share given => ?_⟩
    · by_cases listed : line.lineId ∈ (cappedOf lines categoryByItem progress.1.totals promo).map partId
      · obtain ⟨part, capped, same⟩ := List.mem_map.mp listed
        obtain ⟨share, given⟩ := capped_zip capped
        have fits := discounts_fit priced balanced member
        have received := @received_share _ _ subtotalCents now _ _ distinct applied _ _ (same ▸ fits) given
        unfold receivedIn step
        rw [← same, received]
        exact bears part share given
      · rw [receivedIn_none fun _ => listed]
        exact Nat.zero_le _
    · have member := capped_lines (List.of_mem_zip given).1
      have received := @received_share _ _ subtotalCents now _ _ distinct applied _ _
        (discounts_fit priced balanced member) given
      exact received.symm.le.trans (bears part.1 member)

theorem receivedIn_pos_listed {line : CartLineItem}
    (gains : 0 < receivedIn lines categoryByItem subtotalCents now progress promo line) :
    applies lines categoryByItem subtotalCents now promo = true ∧
      line.lineId ∈ (cappedOf lines categoryByItem progress.1.totals promo).map partId := by
  by_contra off
  rw [receivedIn_none fun applied listed => off ⟨applied, listed⟩] at gains
  exact Nat.lt_irrefl 0 gains

/-- A promotion that is shared out lowers a line when there is anything to share. -/
theorem lowers_iff (distinct : (lines.map CartLineItem.lineId).Nodup)
    (priced : ∀ line ∈ lines, line.lineTotalCents ≤ u64Max) (balanced : Balanced lines progress.1)
    (covered : Covered lines categoryByItem subtotalCents now progress promo) :
    lowers lines categoryByItem subtotalCents now progress promo = true ↔
      applies lines categoryByItem subtotalCents now promo = true ∧
        0 < discountOf lines categoryByItem progress.1.totals promo := by
  obtain ⟨shared, within⟩ := (covered_iff distinct priced balanced).mp covered
  have lowered : lowers lines categoryByItem subtotalCents now progress promo = true ↔ ∃ line ∈ lines,
      0 < receivedIn lines categoryByItem subtotalCents now progress promo line := by
    simp only [lowers, List.any_eq_true, decide_eq_true_eq]
    refine exists_congr fun line => and_congr_right fun member => ?_
    have bears := within line member
    rw [(step_line distinct priced balanced member).1]
    omega
  rw [lowered]
  constructor
  · intro ⟨line, member, gains⟩
    obtain ⟨applied, listed⟩ := receivedIn_pos_listed gains
    obtain ⟨part, capped, same⟩ := List.mem_map.mp listed
    have eligible := List.mem_map_of_mem (f := receivedIn lines categoryByItem subtotalCents now progress promo)
      (capped_subset capped)
    have own : receivedIn lines categoryByItem subtotalCents now progress promo part.1 =
        receivedIn lines categoryByItem subtotalCents now progress promo line :=
      congrArg (received progress.1 (step lines categoryByItem subtotalCents now progress promo).1) same
    have least := List.single_le_sum (fun _ _ => Nat.zero_le _) _ eligible
    rw [shared applied, own] at least
    exact ⟨applied, gains.trans_le least⟩
  · intro ⟨applied, discounted⟩
    rw [← shared applied] at discounted
    obtain ⟨cents, given, positive⟩ := List.exists_mem_ne_zero_of_sum_ne_zero discounted.ne'
    obtain ⟨line, eligible, rfl⟩ := List.mem_map.mp given
    exact ⟨line, (List.mem_filter.mp eligible).1, Nat.pos_of_ne_zero positive⟩

/-- A covered step keeps the balance of every line, and notes what lowered one. -/
theorem covered_step (distinct : (lines.map CartLineItem.lineId).Nodup)
    (priced : ∀ line ∈ lines, line.lineTotalCents ≤ u64Max) (balanced : Balanced lines progress.1)
    (covered : Covered lines categoryByItem subtotalCents now progress promo) :
    (∀ line ∈ lines, (step lines categoryByItem subtotalCents now progress promo).1.discounts line.lineId =
      progress.1.discounts line.lineId + receivedIn lines categoryByItem subtotalCents now progress promo line) ∧
    Balanced lines (step lines categoryByItem subtotalCents now progress promo).1 ∧
    (step lines categoryByItem subtotalCents now progress promo).2 = progress.2 ++
      if lowers lines categoryByItem subtotalCents now progress promo then [promo.id] else [] := by
  have within := ((covered_iff distinct priced balanced).mp covered).2
  have discounts : ∀ line ∈ lines,
      (step lines categoryByItem subtotalCents now progress promo).1.discounts line.lineId =
        progress.1.discounts line.lineId + receivedIn lines categoryByItem subtotalCents now progress promo line := by
    intro line member
    have equal := balanced line member
    have fits := priced line member
    have bears := within line member
    rw [(step_line distinct priced balanced member).2, wrap64_of_fits (by omega)]
  refine ⟨discounts, ?_, ?_⟩
  · intro line member
    have equal := balanced line member
    have bears := within line member
    rw [discounts line member, (step_line distinct priced balanced member).1]
    omega
  · have lowered := lowers_iff distinct priced balanced covered
    unfold step
    cases applied : applies lines categoryByItem subtotalCents now promo with
    | false =>
      rw [if_neg (by simp [lowered, applied]), applyPromo_passed applied, List.append_nil]
    | true =>
      rw [applyPromo_applied applied]
      dsimp only
      by_cases discounted : 0 < discountOf lines categoryByItem progress.1.totals promo
      · rw [if_pos discounted, if_pos (lowered.mpr ⟨applied, discounted⟩)]
      · rw [if_neg discounted, if_neg (fun clash => discounted (lowered.mp clash).2), List.append_nil]

end Step

section Run

/-- The run from any balanced state: it is exact as long as every step is covered. -/
theorem run_iff (distinct : (lines.map CartLineItem.lineId).Nodup)
    (priced : ∀ line ∈ lines, line.lineTotalCents ≤ u64Max) (balanced : Balanced lines progress.1) :
    (Sequence.Meets (step lines categoryByItem subtotalCents now) (SharedOut lines categoryByItem subtotalCents now)
        progress promos ∧
      (∀ line ∈ lines, progress.1.discounts line.lineId +
        receivedOf lines categoryByItem subtotalCents now progress promos line ≤ line.lineTotalCents) ∧
      (promos.foldl (step lines categoryByItem subtotalCents now) progress).2 =
        progress.2 ++ lowering lines categoryByItem subtotalCents now progress promos) ↔
    Sequence.Meets (step lines categoryByItem subtotalCents now) (Covered lines categoryByItem subtotalCents now)
      progress promos := by
  induction promos generalizing progress with
  | nil =>
    refine iff_of_true ⟨trivial, ?_, by simp [lowering]⟩ trivial
    intro line member
    have equal := balanced line member
    simp only [receivedOf]
    omega
  | cons promo promos ih =>
    have here := @covered_iff _ categoryByItem subtotalCents now _ promo distinct priced balanced
    constructor
    · intro ⟨⟨shared, later⟩, within, noted⟩
      have covered := here.mpr ⟨shared, fun line member => by
        have equal := balanced line member
        have bound := within line member
        rw [receivedOf] at bound
        omega⟩
      obtain ⟨discounts, kept, ids⟩ := covered_step distinct priced balanced covered
      refine ⟨covered, (ih kept).mp ⟨later, ?_, ?_⟩⟩
      · intro line member
        have bound := within line member
        rw [receivedOf] at bound
        rw [discounts line member]
        omega
      · rw [List.foldl_cons, lowering, ← List.append_assoc, ← ids] at noted
        exact noted
    · intro ⟨covered, later⟩
      obtain ⟨discounts, kept, ids⟩ := covered_step distinct priced balanced covered
      obtain ⟨shared, within, noted⟩ := (ih kept).mpr later
      refine ⟨⟨(here.mp covered).1, shared⟩, ?_, ?_⟩
      · intro line member
        have bound := within line member
        rw [discounts line member] at bound
        rw [receivedOf]
        omega
      · rw [List.foldl_cons, noted, lowering, ids, List.append_assoc]

theorem balanced_ofLines (distinct : (lines.map CartLineItem.lineId).Nodup) :
    Balanced lines (LineAmounts.ofLines lines) := by
  intro line member
  exact (Nat.zero_add _).trans (ofLines_totals distinct member)

/-- Promotions are allocated exactly when each of them finds room for what rounding leaves. -/
theorem allocatedExactly_iff (distinct : (lines.map CartLineItem.lineId).Nodup)
    (priced : ∀ line ∈ lines, line.lineTotalCents ≤ u64Max) :
    AllocatedExactly lines categoryByItem subtotalCents now promos ↔
      Sequence.Meets (step lines categoryByItem subtotalCents now) (Covered lines categoryByItem subtotalCents now)
        (LineAmounts.ofLines lines, []) (byPriority promos) := by
  rw [← @run_iff _ categoryByItem subtotalCents now (LineAmounts.ofLines lines, []) _ distinct priced
    (balanced_ofLines distinct)]
  constructor
  · rintro ⟨shared, within, noted⟩
    exact ⟨shared, fun line member => by simpa [LineAmounts.ofLines] using within line member, noted⟩
  · rintro ⟨shared, within, noted⟩
    exact ⟨shared, fun line member => by simpa [LineAmounts.ofLines] using within line member, noted⟩

/-- Three dollars off a basket of ten dollars and five. -/
theorem three_dollars_are_shared :
    AllocatedExactly [lineOf 1 1 1000, lineOf 2 1 500] (fun _ => .nil) 1500 1 [offer (.fixedAmountOff 300)] :=
  (allocatedExactly_iff (by decide) (by decide)).mpr (by decide)

/-- 99% off three lines of one cent: the last one is given two cents. -/
theorem last_line_gets_too_much :
    ((List.map CartLineItem.lineId [lineOf 1 1 1, lineOf 2 1 1, lineOf 3 1 1]).Nodup ∧
      ∀ line ∈ [lineOf 1 1 1, lineOf 2 1 1, lineOf 3 1 1], 1 ≤ line.quantity ∧ line.lineTotalCents ≤ u64Max) ∧
    ¬ AllocatedExactly [lineOf 1 1 1, lineOf 2 1 1, lineOf 3 1 1] (fun _ => .nil) 3 1 [offer (.percentageOff 9900)] := by
  refine ⟨by decide, fun exact => ?_⟩
  exact absurd (exact.within (lineOf 3 1 1) (by simp)) (by decide)

end Run
end ApexEdge.Proofs.ExactPromos
