import Budgy.Model.Cycle

/-!
# The cycles of a start day partition time

A cycle ends on a day of its month, and starts where the cycle before it ends
(`CycleMensuel.finExclue_precedent`).  So the ends follow the months, and a date is in
the cycle of its month or in the next one.  `CycleMensuel.sansPanique_iff` says for which
cycles the dates exist in the library.
-/

set_option autoImplicit false

namespace Budgy

open Gregorian (Date isLeap monthLength)

/-! ## The order of the months -/

namespace Mois

/-- The number of the month. -/
def rang (m : Mois) : ℤ := 12 * m.annee + m.mois

/-- Two months of the same rank are the same. -/
theorem rang_injective : Function.Injective rang := by
  intro m m' h
  have h₁ := m.un_le_mois
  have h₂ := m.mois_le
  have h₃ := m'.un_le_mois
  have h₄ := m'.mois_le
  unfold rang at h
  exact Mois.ext (by omega) (by omega)

/-- The next month has the next rank. -/
@[simp]
theorem rang_suivant (m : Mois) : m.suivant.rang = m.rang + 1 := by
  unfold suivant rang
  split
  · rename_i h
    simp only [h]
    omega
  · simp only [Nat.cast_add, Nat.cast_one]
    omega

/-- The month before has the rank before. -/
@[simp]
theorem rang_precedent (m : Mois) : m.precedent.rang = m.rang - 1 := by
  have h₁ := m.un_le_mois
  unfold precedent rang
  split
  · rename_i h
    simp only [h]
    omega
  · simp only
    omega

/-- The month after the month before. -/
@[simp]
theorem suivant_precedent (m : Mois) : m.precedent.suivant = m :=
  rang_injective (by simp)

/-- The month before the month after. -/
@[simp]
theorem precedent_suivant (m : Mois) : m.suivant.precedent = m :=
  rang_injective (by simp)

/-- The first day of a month is in it. -/
@[simp]
theorem moisDe_premierJour (m : Mois) : moisDe m.premierJour = m := rfl

end Mois

/-- A day of an earlier month comes before. -/
theorem lt_of_rang_lt {d d' : NaiveDate} (h : (moisDe d).rang < (moisDe d').rang) : d < d' := by
  have h₁ := d.one_le_month
  have h₂ := d.month_le
  have h₃ := d'.one_le_month
  have h₄ := d'.month_le
  unfold Mois.rang moisDe at h
  simp only at h
  rcases lt_trichotomy d.year d'.year with hlt | heq | hgt
  · exact Date.lt_of_year_lt hlt
  · exact Date.lt_of_month_lt heq (by omega)
  · omega

/-- A date is before another exactly when it does not come after the day before. -/
theorem lt_iff_le_veille {d d' : NaiveDate} : d < d' ↔ d ≤ veille d' := by
  rw [Date.lt_iff_toDays, Date.le_iff_toDays, veille, Date.toDays_ofDays]
  omega

/-- From the second day of a month on, the day before is in the month. -/
theorem moisDe_veille {d : NaiveDate} (h : 2 ≤ d.day) : moisDe (veille d) = moisDe d := by
  have hle := d.day_le
  have hveille : veille d = { d with day := d.day - 1, one_le_day := by omega,
                                     day_le := by omega } := by
    unfold veille
    rw [← Date.ofDays_toDays { d with day := d.day - 1, one_le_day := _, day_le := _ }]
    congr 1
    simp only [Date.toDays]
    omega
  rw [hveille]
  rfl

/-- No month is so short that its last day is the first. -/
theorem two_le_dernierJour (m : Mois) : 2 ≤ dernierJour m := by
  have h₁ := m.un_le_mois
  have h₂ := m.mois_le
  rw [dernierJour_eq]
  generalize isLeap m.annee = leap
  generalize m.mois = n at h₁ h₂
  interval_cases n <;> cases leap <;> decide

/-! ## The ends of the cycles -/

namespace CycleMensuel

/-- The last day of a cycle is in its month. -/
theorem moisDe_dernier (c : CycleMensuel) : moisDe (veille c.finExclue) = c.mois := by
  unfold finExclue
  split
  · rw [veille_premierJourMoisSuivant]
    rfl
  · rename_i hjour
    have hdeux : 2 ≤ c.jourDebut.valeur := by
      have hun := c.jourDebut.un_le
      have hne : c.jourDebut.valeur ≠ 1 := fun h => hjour (JourDebutMois.ext h)
      omega
    rw [Mois.moisDe_premierJour, moisDe_veille (le_min hdeux (two_le_dernierJour c.mois))]
    rfl

/-- The cycle before ends where the cycle starts. -/
theorem finExclue_precedent (c : CycleMensuel) : c.precedent.finExclue = c.debut := by
  obtain ⟨m, jour⟩ := c
  unfold precedent debut finExclue
  simp only [Mois.moisDe_premierJour]
  split
  · rename_i hjour
    subst hjour
    rw [Mois.premierJourMoisSuivant, Mois.premierJourMoisSuivant, Mois.moisDe_premierJour,
      Mois.suivant_precedent, Mois.precedent_suivant]
    refine Date.ext rfl rfl ?_
    exact (min_eq_left (one_le_two.trans (two_le_dernierJour m))).symm
  · rfl

variable {jour : JourDebutMois} {m m' : Mois} {d : NaiveDate}

/-- The date is in the cycle. -/
def Couvre (c : CycleMensuel) (d : NaiveDate) : Prop := c.debut ≤ d ∧ d < c.finExclue

/-- Dates of earlier months are before the end of a cycle. -/
private theorem lt_finExclue (h : (moisDe d).rang < m.rang) :
    d < (⟨m, jour⟩ : CycleMensuel).finExclue := by
  rw [lt_iff_le_veille]
  refine (lt_of_rang_lt ?_).le
  rwa [moisDe_dernier]

/-- Dates of later months are after it. -/
private theorem finExclue_le (h : m.rang < (moisDe d).rang) :
    (⟨m, jour⟩ : CycleMensuel).finExclue ≤ d := by
  rw [← not_lt, lt_iff_le_veille, not_le]
  refine lt_of_rang_lt ?_
  rwa [moisDe_dernier]

/-- The ends of the cycles follow the months. -/
private theorem finExclue_mono (h : m.rang ≤ m'.rang) :
    (⟨m, jour⟩ : CycleMensuel).finExclue ≤ (⟨m', jour⟩ : CycleMensuel).finExclue := by
  rcases h.eq_or_lt with heq | hlt
  · rw [Mois.rang_injective heq]
  · refine finExclue_le ?_ |>.trans (le_of_lt ?_) (b := veille (⟨m', jour⟩ : CycleMensuel).finExclue)
    · rwa [moisDe_dernier]
    · rw [lt_iff_le_veille]

/-- A date is in the cycle of its month, or in the next one. -/
theorem couvre_moisDe_or (jour : JourDebutMois) (d : NaiveDate) :
    Couvre ⟨moisDe d, jour⟩ d ∨ Couvre ⟨(moisDe d).suivant, jour⟩ d := by
  unfold Couvre
  rw [← finExclue_precedent, ← finExclue_precedent]
  simp only [precedent, Mois.precedent_suivant]
  rcases lt_or_ge d (⟨moisDe d, jour⟩ : CycleMensuel).finExclue with hlt | hge
  · exact .inl ⟨finExclue_le (by simp), hlt⟩
  · exact .inr ⟨hge, lt_finExclue (by simp)⟩

/-- It is in no other. -/
theorem couvre_unique (h : Couvre ⟨m, jour⟩ d) (h' : Couvre ⟨m', jour⟩ d) : m = m' := by
  -- a cycle ends before a later one starts
  have hordre : ∀ {m m' : Mois}, Couvre ⟨m, jour⟩ d → Couvre ⟨m', jour⟩ d → ¬ m.rang < m'.rang := by
    intro m m' h h' hlt
    have hle : (⟨m, jour⟩ : CycleMensuel).finExclue ≤ (⟨m', jour⟩ : CycleMensuel).debut := by
      rw [← finExclue_precedent]
      exact finExclue_mono (by simp only [Mois.rang_precedent]; omega)
    exact absurd (h.2.trans_le (hle.trans h'.1)) (lt_irrefl d)
  exact Mois.rang_injective (le_antisymm (not_lt.1 (hordre h' h)) (not_lt.1 (hordre h h')))

end CycleMensuel

/-! ## What the library can represent -/

/-- A date is built when its year is in the calendar and the month has such a day. -/
theorem fromYmdOpt_eq_some {m : Mois} {jour : ℕ} {d : NaiveDate} :
    fromYmdOpt m.annee m.mois jour = some d ↔
      anneeMin ≤ m.annee ∧ m.annee ≤ anneeMax ∧ moisDe d = m ∧ d.day = jour := by
  unfold fromYmdOpt Date.ofYmd?
  constructor
  · intro h
    split at h
    · rename_i hannee
      split at h
      · cases h
        exact ⟨hannee.1, hannee.2, rfl, rfl⟩
      · cases h
    · cases h
  · rintro ⟨h₁, h₂, rfl, rfl⟩
    rw [if_pos ⟨h₁, h₂⟩, dif_pos ⟨d.one_le_month, d.month_le, d.one_le_day, d.day_le⟩]
    rfl

/-- Two dates of one month, of one day. -/
private theorem eq_of_moisDe {d d' : NaiveDate} (h : moisDe d = moisDe d') (hday : d.day = d'.day) :
    d = d' :=
  Date.ext (congrArg Mois.annee h) (congrArg Mois.mois h) hday

/-- The first of a month exists within the bounds. -/
theorem premierJour?_eq_some {m : Mois} {d : NaiveDate} :
    m.premierJour? = some d ↔ (anneeMin ≤ m.annee ∧ m.annee ≤ anneeMax) ∧ d = m.premierJour := by
  rw [Mois.premierJour?, fromYmdOpt_eq_some]
  constructor
  · rintro ⟨h₁, h₂, hmois, hday⟩
    exact ⟨⟨h₁, h₂⟩, eq_of_moisDe hmois hday⟩
  · rintro ⟨⟨h₁, h₂⟩, rfl⟩
    exact ⟨h₁, h₂, rfl, rfl⟩

/-- The month and the one after are within the bounds. -/
def Mois.Interieur (m : Mois) : Prop := anneeMin ≤ m.annee ∧ m.suivant.annee ≤ anneeMax

/-- The next month is not of an earlier year. -/
theorem Mois.annee_le_suivant (m : Mois) : m.annee ≤ m.suivant.annee := by
  unfold suivant
  split
  · exact (Int.lt_succ m.annee).le
  · exact le_rfl

/-- A month inside the calendar is not beyond its last year. -/
theorem Mois.Interieur.annee_le {m : Mois} (h : m.Interieur) : m.annee ≤ anneeMax :=
  m.annee_le_suivant.trans h.2

/-- The last day is known inside the calendar, and is that of the month. -/
theorem dernierJour?_eq_some {m : Mois} {n : ℕ} :
    dernierJour? m = some n ↔ m.Interieur ∧ n = dernierJour m := by
  have hveille : (veille m.premierJourMoisSuivant).year = m.annee := by
    rw [veille_premierJourMoisSuivant]
    rfl
  have hpred : predOpt m.premierJourMoisSuivant =
      if anneeMin ≤ m.annee then some (veille m.premierJourMoisSuivant) else none := by
    rw [predOpt, hveille]
  unfold dernierJour?
  constructor
  · intro h
    obtain ⟨premier, hpremier, h⟩ := Option.bind_eq_some_iff.1 h
    obtain ⟨dernier, hdernier, h⟩ := Option.bind_eq_some_iff.1 h
    obtain ⟨hannee, rfl⟩ := premierJour?_eq_some.1 hpremier
    rw [← Mois.premierJourMoisSuivant, hpred] at hdernier
    split at hdernier
    · rename_i hmin
      cases hdernier
      cases h
      exact ⟨⟨hmin, hannee.2⟩, rfl⟩
    · cases hdernier
  · rintro ⟨h, rfl⟩
    have hpremier : fromYmdOpt m.suivant.annee m.suivant.mois 1 = some m.premierJourMoisSuivant :=
      premierJour?_eq_some.2 ⟨⟨h.1.trans m.annee_le_suivant, h.2⟩, rfl⟩
    rw [hpremier, Option.bind_eq_bind, Option.bind_some, hpred, if_pos h.1]
    rfl

/-- The day is known inside the calendar, and is that of the month. -/
theorem jourDansLeMois?_eq_some {m : Mois} {jour : JourDebutMois} {d : NaiveDate} :
    jourDansLeMois? m jour = some d ↔ m.Interieur ∧ d = jourDansLeMois m jour := by
  unfold jourDansLeMois?
  constructor
  · intro h
    obtain ⟨dernier, hdernier, h⟩ := Option.bind_eq_some_iff.1 h
    obtain ⟨hm, rfl⟩ := dernierJour?_eq_some.1 hdernier
    obtain ⟨-, -, hmois, hday⟩ := fromYmdOpt_eq_some.1 h
    exact ⟨hm, eq_of_moisDe hmois hday⟩
  · rintro ⟨h, rfl⟩
    rw [dernierJour?_eq_some.2 ⟨h, rfl⟩]
    exact fromYmdOpt_eq_some.2 ⟨h.1, h.annee_le, rfl, rfl⟩

namespace CycleMensuel

/-- The end of a cycle exists when its month and the next are within the bounds. -/
theorem finExclue?_eq_some {c : CycleMensuel} {d : NaiveDate} :
    c.finExclue? = some d ↔ c.mois.Interieur ∧ d = c.finExclue := by
  unfold finExclue? finExclue
  constructor
  · intro h
    obtain ⟨debutMois, hdebut, h⟩ := Option.bind_eq_some_iff.1 h
    obtain ⟨hannee, rfl⟩ := premierJour?_eq_some.1 hdebut
    split at h
    · rename_i hjour
      obtain ⟨hsuivant, rfl⟩ := premierJour?_eq_some.1 h
      exact ⟨⟨hannee.1, hsuivant.2⟩, (if_pos hjour).symm⟩
    · rename_i hjour
      rw [if_neg hjour]
      exact jourDansLeMois?_eq_some.1 h
  · rintro ⟨h, rfl⟩
    rw [premierJour?_eq_some.2 ⟨⟨h.1, h.annee_le⟩, rfl⟩, Option.bind_eq_bind, Option.bind_some]
    split
    · exact premierJour?_eq_some.2 ⟨⟨h.1.trans c.mois.annee_le_suivant, h.2⟩, rfl⟩
    · exact jourDansLeMois?_eq_some.2 ⟨h, rfl⟩

/-- The cycle starts within the bounds, and the month after its own is within them. -/
def DansCalendrier (c : CycleMensuel) : Prop :=
  anneeMin ≤ c.debut.year ∧ c.mois.suivant.annee ≤ anneeMax

/-- A cycle starts in the month before its end, which is in its month or in the next. -/
private theorem moisDe_finExclue (c : CycleMensuel) :
    moisDe c.finExclue = (moisDe c.debut).suivant ∧
      (moisDe c.finExclue = c.mois ∨ moisDe c.finExclue = c.mois.suivant) := by
  constructor
  · have hdebut : moisDe c.debut = (moisDe c.finExclue).precedent := rfl
    rw [hdebut, Mois.suivant_precedent]
  · unfold finExclue
    split
    · exact .inr rfl
    · exact .inl rfl

/-- Both dates exist exactly for the cycles of the calendar. -/
theorem sansPanique_iff (c : CycleMensuel) :
    (c.debut? = some c.debut ∧ c.finExclue? = some c.finExclue) ↔ c.DansCalendrier := by
  obtain ⟨hsuivant, hfin⟩ := c.moisDe_finExclue
  constructor
  · rintro ⟨h, -⟩
    obtain ⟨fin, hfin', h⟩ := Option.bind_eq_some_iff.1 h
    obtain ⟨hm, rfl⟩ := finExclue?_eq_some.1 hfin'
    rw [hsuivant, Mois.precedent_suivant] at h
    exact ⟨(jourDansLeMois?_eq_some.1 h).1.1, hm.2⟩
  · rintro ⟨hmin, hmax⟩
    have hmin : anneeMin ≤ (moisDe c.debut).annee := hmin
    -- the month of the start, and that of the cycle, are inside
    have hdebut : (moisDe c.debut).Interieur := by
      refine ⟨hmin, ?_⟩
      rw [← hsuivant]
      rcases hfin with heq | heq <;> rw [heq]
      · exact c.mois.annee_le_suivant.trans hmax
      · exact hmax
    have hmois : c.mois.Interieur := by
      refine ⟨?_, hmax⟩
      rcases hfin with heq | heq
      · rw [← heq, hsuivant]
        exact hmin.trans (moisDe c.debut).annee_le_suivant
      · have hsame : c.mois = moisDe c.debut := by
          rw [← Mois.precedent_suivant c.mois, ← heq, hsuivant, Mois.precedent_suivant]
        rwa [hsame]
    have hfin? : c.finExclue? = some c.finExclue := finExclue?_eq_some.2 ⟨hmois, rfl⟩
    refine ⟨?_, hfin?⟩
    rw [debut?, hfin?, Option.bind_eq_bind, Option.bind_some, hsuivant, Mois.precedent_suivant]
    refine jourDansLeMois?_eq_some.2 ⟨hdebut, ?_⟩
    rw [← Mois.precedent_suivant (moisDe c.debut), ← hsuivant]
    rfl

/-- A cycle of the calendar covers a date, its two ends being computed. -/
def Contient (c : CycleMensuel) (d : NaiveDate) : Prop :=
  ∃ debut fin, c.debut? = some debut ∧ c.finExclue? = some fin ∧ debut ≤ d ∧ d < fin

/-- A cycle inside the calendar contains the days that it covers. -/
theorem contient_iff {c : CycleMensuel} {d : NaiveDate} :
    c.Contient d ↔ c.DansCalendrier ∧ c.Couvre d := by
  constructor
  · rintro ⟨debut, fin, hdebut, hfin, h₁, h₂⟩
    obtain ⟨-, rfl⟩ := finExclue?_eq_some.1 hfin
    have hdebut' := hdebut
    rw [debut?, hfin, Option.bind_eq_bind, Option.bind_some] at hdebut'
    obtain ⟨-, rfl⟩ := jourDansLeMois?_eq_some.1 hdebut'
    exact ⟨c.sansPanique_iff.1 ⟨hdebut, hfin⟩, h₁, h₂⟩
  · rintro ⟨hc, h₁, h₂⟩
    obtain ⟨hdebut, hfin⟩ := c.sansPanique_iff.2 hc
    exact ⟨c.debut, c.finExclue, hdebut, hfin, h₁, h₂⟩

end CycleMensuel

/-! ## The months that are parsed -/

/-- A parsed month is of a year of four digits. -/
theorem Mois.parse_annee {valeur : String} {m : Mois} (h : Mois.parse valeur = .ok m) :
    0 ≤ m.annee ∧ m.annee ≤ 9999 := by
  unfold parse at h
  split at h
  · cases h
  rename_i annee mois hsplit
  split at h
  · cases h
  rename_i hlen
  split at h
  · rename_i a b ha hb
    split at h
    · cases h
      have hsize : annee.utf8ByteSize = 4 := by
        by_contra hne
        exact hlen (.inl hne)
      have hlt := Text.parseInt?_natAbs_lt ha
      have hle := Text.length_le_utf8ByteSize annee
      have hpow : 10 ^ annee.toList.length ≤ 10 ^ 4 :=
        Nat.pow_le_pow_right (by decide) (by omega)
      have hnonneg := Text.parseInt?_nonneg ha (Text.splitOnce_head? hsplit)
      refine ⟨hnonneg, ?_⟩
      simp only
      omega
    · cases h
  · cases h

/-! ## The partition -/

namespace CycleMensuel

variable {jour : JourDebutMois} {m : Mois} {d : NaiveDate}

/-- The cycle of the month of a date well inside the bounds, and the next one, are in the
calendar. -/
private theorem dansCalendrier_of_rang (hmin : anneeMin < d.year) (hmax : d.year < anneeMax)
    (hm : (moisDe d).rang ≤ m.rang) (hm' : m.rang ≤ (moisDe d).rang + 1) :
    (⟨m, jour⟩ : CycleMensuel).DansCalendrier := by
  obtain ⟨hsuivant, hfin⟩ := (⟨m, jour⟩ : CycleMensuel).moisDe_finExclue
  have hdebut : m.rang ≤ (moisDe (⟨m, jour⟩ : CycleMensuel).debut).rang + 1 := by
    rw [← Mois.rang_suivant, ← hsuivant]
    rcases hfin with heq | heq <;> rw [heq]
    rw [Mois.rang_suivant]
    exact (Int.lt_succ m.rang).le
  have h₁ := (⟨m, jour⟩ : CycleMensuel).debut.month_le
  have h₂ := d.one_le_month
  have h₃ := d.month_le
  have h₄ := m.suivant.un_le_mois
  have h₅ := m.rang_suivant
  unfold anneeMin at hmin
  unfold anneeMax at hmax
  unfold Mois.rang moisDe at hdebut hm hm'
  unfold Mois.rang at h₅
  simp only at hdebut hm hm'
  constructor
  · unfold anneeMin
    omega
  · unfold anneeMax
    simp only
    omega

/-- No `expect` fails in the computations of the dates of a cycle. -/
structure SansPanique (c : CycleMensuel) : Prop where
  premierJour : c.mois.premierJour? = some c.mois.premierJour
  premierJourMoisSuivant : c.mois.premierJourMoisSuivant? = some c.mois.premierJourMoisSuivant
  debut : c.debut? = some c.debut
  finExclue : c.finExclue? = some c.finExclue

/-- The cycle that covers a date well inside the bounds is in the calendar. -/
theorem Couvre.dansCalendrier (h : Couvre ⟨m, jour⟩ d) (hmin : anneeMin < d.year)
    (hmax : d.year < anneeMax) : (⟨m, jour⟩ : CycleMensuel).DansCalendrier := by
  rcases couvre_moisDe_or jour d with hcouvre | hcouvre
  · obtain rfl := couvre_unique h hcouvre
    exact dansCalendrier_of_rang hmin hmax le_rfl (by omega)
  · obtain rfl := couvre_unique h hcouvre
    exact dansCalendrier_of_rang hmin hmax (by simp) (by simp)

/-- A cycle inside the calendar has both its ends. -/
theorem DansCalendrier.sansPanique {c : CycleMensuel} (h : c.DansCalendrier) : c.SansPanique := by
  obtain ⟨hdebut, hfin⟩ := c.sansPanique_iff.2 h
  obtain ⟨hm, -⟩ := finExclue?_eq_some.1 hfin
  exact
    { premierJour := premierJour?_eq_some.2 ⟨⟨hm.1, hm.annee_le⟩, rfl⟩
      premierJourMoisSuivant :=
        premierJour?_eq_some.2 ⟨⟨hm.1.trans c.mois.annee_le_suivant, hm.2⟩, rfl⟩
      debut := hdebut
      finExclue := hfin }

/-- A step back stays below the upper bound. -/
private theorem suivant_annee_precedent (k : ℕ) (c : CycleMensuel) :
    (precedent^[k] c).mois.suivant.annee ≤ c.mois.suivant.annee := by
  induction k generalizing c with
  | zero => exact le_rfl
  | succ k ih =>
      refine (ih c.precedent).trans ?_
      simp only [precedent, Mois.suivant_precedent]
      exact c.mois.annee_le_suivant

end CycleMensuel

open CycleMensuel

/-- The cycles of a start day partition time: a date well inside the bounds of the library
is in the cycle of exactly one month, each cycle starts where the one before it ends, and
ends on a day of its month.  The dates exist exactly for the cycles of the calendar, so for
every month that is parsed, and after any number of steps back that lead to a cycle that
starts in the calendar. -/
theorem cycles_partition (jour : JourDebutMois) :
    (∀ d : NaiveDate, anneeMin < d.year → d.year < anneeMax →
      ∃! m : Mois, Contient ⟨m, jour⟩ d) ∧
    (∀ m : Mois, finExclue (precedent ⟨m, jour⟩) = debut ⟨m, jour⟩) ∧
    (∀ m : Mois, moisDe (veille (finExclue ⟨m, jour⟩)) = m) ∧
    (∀ m : Mois, SansPanique ⟨m, jour⟩ ↔ DansCalendrier ⟨m, jour⟩) ∧
    ∀ valeur m, Mois.parse valeur = .ok m →
      (0 ≤ m.annee ∧ m.annee ≤ 9999) ∧ SansPanique ⟨m, jour⟩ ∧
      ∀ k, anneeMin ≤ (precedent^[k] ⟨m, jour⟩).debut.year → SansPanique (precedent^[k] ⟨m, jour⟩) := by
  refine ⟨fun d hmin hmax => ?_, fun m => finExclue_precedent _, fun m => moisDe_dernier _,
    fun m => ⟨fun h => (sansPanique_iff _).1 ⟨h.debut, h.finExclue⟩, fun h => h.sansPanique⟩,
    fun valeur m hm => ?_⟩
  · have hunique : ∀ m m' : Mois, Contient ⟨m, jour⟩ d → Contient ⟨m', jour⟩ d → m = m' :=
      fun m m' h h' => couvre_unique (contient_iff.1 h).2 (contient_iff.1 h').2
    rcases couvre_moisDe_or jour d with h | h
    · have hc := contient_iff.2 ⟨h.dansCalendrier hmin hmax, h⟩
      exact ⟨_, hc, fun m' h' => hunique _ _ h' hc⟩
    · have hc := contient_iff.2 ⟨h.dansCalendrier hmin hmax, h⟩
      exact ⟨_, hc, fun m' h' => hunique _ _ h' hc⟩
  · have hannee := Mois.parse_annee hm
    have hmax : m.suivant.annee ≤ anneeMax := by
      have h₁ := m.rang_suivant
      have h₂ := m.mois_le
      have h₃ := m.suivant.un_le_mois
      unfold Mois.rang at h₁
      unfold anneeMax
      omega
    refine ⟨hannee, ?_, fun k hk => DansCalendrier.sansPanique ⟨hk, ?_⟩⟩
    · refine DansCalendrier.sansPanique (dansCalendrier_of_rang (d := m.premierJour) ?_ ?_ le_rfl ?_)
      · exact lt_of_lt_of_le (by decide) hannee.1
      · exact lt_of_le_of_lt hannee.2 (by decide)
      · simp
    · exact (suivant_annee_precedent k ⟨m, jour⟩).trans hmax

/-- With the twenty-eighth as start day, the last day of July 2026 is in one cycle. -/
theorem cycles_partition_vingtHuit :
    ∃! m : Mois, Contient ⟨m, ⟨28, by decide, by decide⟩⟩ (Date.ofDays 20665) :=
  (cycles_partition _).1 _ (by decide) (by decide)

end Budgy
