import Budgy.Analysis.Aggregates

/-!
# The forecast balance

`calculer_previsionnel` starts from the current balance and adds what each predicted category
still promises: the predicted amount less what was realised, never below zero.  Spending
within what remained predicted moves money from the balance to the realised amounts and
leaves the forecast as it was; only the excess lowers it.
-/

set_option autoImplicit false

namespace Budgy

variable {categories categories' : HashMap Uuid Category} {prevues prevues' : HashMap Uuid ℤ}
  {realise realise' : RepartitionDepenses} {c : Uuid} {prevu : ℤ}

/-! ## One side of the forecast -/

/-- What a predicted category still promises. -/
def resteDe (realise : RepartitionDepenses) (c : Uuid) (prevu : ℤ) : ℤ :=
  max (prevu - realise.montantDe c) 0

/-- What the predicted categories still promise. -/
def resteTotal (prevues : HashMap Uuid ℤ) (realise : RepartitionDepenses) : ℤ :=
  (prevues.liaisons.map fun e => resteDe realise e.1 e.2).sum

/-- The differences and their total are machine integers. -/
structure CoteBorne (prevues : HashMap Uuid ℤ) (realise : RepartitionDepenses) : Prop where
  ecart : ∀ c prevu, prevues.lookup c = some prevu → EstI64 (prevu - realise.montantDe c)
  total : resteTotal prevues realise ≤ i64Max

/-- What is still expected of a category is not negative. -/
theorem resteDe_nonneg : 0 ≤ resteDe realise c prevu := le_max_right _ _

/-- The lines hold the remaining amounts. -/
theorem restants_lignesPrevision (hrealise : realise.SansDoublon)
    (hborne : CoteBorne prevues realise) :
    (lignesPrevision categories prevues (indexerParCategorie realise)).map (·.restantCents) =
      prevues.liaisons.map fun e => resteDe realise e.1 e.2 := by
  unfold lignesPrevision
  rw [List.map_map]
  refine List.map_congr_left fun e he => ?_
  have hecart := hborne.ecart e.1 e.2 (mem_liaisons.1 he)
  show max (i64 (e.2 - ((indexerParCategorie realise).lookup e.1).getD 0)) 0 = _
  rw [RepartitionDepenses.getD_lookup_indexer hrealise, i64_of_estI64 hecart]
  rfl

/-- The lines of one side sum to what is still expected of it. -/
theorem somme_lignesPrevision (categories : HashMap Uuid Category)
    (hrealise : realise.SansDoublon)
    (hborne : CoteBorne prevues realise) :
    sommeI64 ((lignesPrevision categories prevues (indexerParCategorie realise)).map
      (·.restantCents)) = resteTotal prevues realise := by
  rw [restants_lignesPrevision hrealise hborne]
  refine sommeI64_eq (fun n hn => ?_) hborne.total
  obtain ⟨e, -, rfl⟩ := List.mem_map.1 hn
  exact resteDe_nonneg

/-- Two maps with the same bindings list them in two orders. -/
theorem liaisons_perm (h : ∀ c, prevues'.lookup c = prevues.lookup c) :
    prevues'.liaisons.Perm prevues.liaisons := by
  refine (List.perm_ext_iff_of_nodup (nodup_liaisons _) (nodup_liaisons _)).2 ?_
  rintro ⟨c, prevu⟩
  rw [mem_liaisons, mem_liaisons, h c]

/-- The total only depends on what is looked up. -/
theorem resteTotal_congr (h : ∀ c, prevues'.lookup c = prevues.lookup c) :
    resteTotal prevues' realise = resteTotal prevues realise := ((liaisons_perm h).map _).sum_eq

/-- So do the bounds of a side. -/
theorem CoteBorne.congr (h : ∀ c, prevues'.lookup c = prevues.lookup c)
    (hborne : CoteBorne prevues realise) : CoteBorne prevues' realise where
  ecart c prevu hc := hborne.ecart c prevu ((h c).symm.trans hc)
  total := (resteTotal_congr h).trans_le hborne.total

/-- When one category realises more, what remains changes in its line only. -/
theorem resteTotal_realiser (hc : prevues.lookup c = some prevu)
    (hautres : ∀ c', c' ≠ c → realise'.montantDe c' = realise.montantDe c') :
    resteTotal prevues realise' - resteDe realise' c prevu =
      resteTotal prevues realise - resteDe realise c prevu := by
  have hmem : (c, prevu) ∈ prevues.liaisons := mem_liaisons.2 hc
  have hperm := List.perm_cons_erase hmem
  have hcles := (hperm.map Prod.fst).nodup_iff.1 (nodup_cles prevues)
  rw [List.map_cons, List.nodup_cons] at hcles
  have hsuite : (prevues.liaisons.erase (c, prevu)).map (fun e => resteDe realise' e.1 e.2) =
      (prevues.liaisons.erase (c, prevu)).map fun e => resteDe realise e.1 e.2 := by
    refine List.map_congr_left fun e he => ?_
    have hne : e.1 ≠ c := by
      rintro rfl
      exact hcles.1 (List.mem_map.2 ⟨e, he, rfl⟩)
    rw [resteDe, resteDe, hautres e.1 hne]
  have hapres : resteTotal prevues realise' = _ := (hperm.map _).sum_eq
  have havant : resteTotal prevues realise = _ := (hperm.map _).sum_eq
  rw [hapres, havant, List.map_cons, List.map_cons, List.sum_cons, List.sum_cons, hsuite]
  dsimp only
  omega

/-- What is realised lowers what remains, as far as it goes. -/
theorem resteDe_realiser (prevu : ℤ) {x : ℤ} (hx : 0 ≤ x)
    (hrealise : realise'.montantDe c = realise.montantDe c + x) :
    resteDe realise c prevu - resteDe realise' c prevu =
      x - max (x - resteDe realise c prevu) 0 := by
  unfold resteDe
  rw [hrealise]
  omega

/-! ## The forecast -/

section Forecast

variable {solde : ℤ} {depensesPrevues revenusPrevus : HashMap Uuid ℤ}
  {depenses depenses' revenus revenus' : RepartitionDepenses}

/-- No step of the computation leaves the machine integers. -/
structure PrevisionBornee (solde : ℤ) (depensesPrevues revenusPrevus : HashMap Uuid ℤ)
    (depenses revenus : RepartitionDepenses) : Prop where
  coteDepenses : CoteBorne depensesPrevues depenses
  coteRevenus : CoteBorne revenusPrevus revenus
  encaisse : EstI64 (solde + resteTotal revenusPrevus revenus)
  projete : EstI64 (solde + resteTotal revenusPrevus revenus - resteTotal depensesPrevues depenses)

/-- The forecast law: the balance, plus what each predicted income still promises, less what
each predicted expense does, the sums of the remaining amounts of the lines. -/
structure Previsionnel.Exact (p : Previsionnel) (solde : ℤ)
    (depensesPrevues revenusPrevus : HashMap Uuid ℤ) (depenses revenus : RepartitionDepenses) :
    Prop where
  projete : p.soldePrevisionnelCents =
    p.soldeActuelCents + p.revenusRestantsCents - p.depensesRestantesCents
  actuel : p.soldeActuelCents = solde
  depenses : p.depensesRestantesCents =
    (depensesPrevues.liaisons.map fun e => max (e.2 - depenses.montantDe e.1) 0).sum
  revenus : p.revenusRestantsCents =
    (revenusPrevus.liaisons.map fun e => max (e.2 - revenus.montantDe e.1) 0).sum
  lignes : ∃ lignesDepenses lignesRevenus : List LignePrevisionCategorie,
    p.lignes.Perm (lignesDepenses ++ lignesRevenus) ∧
      lignesDepenses.map (·.categoryId) = depensesPrevues.liaisons.map (fun e => some e.1) ∧
      lignesRevenus.map (·.categoryId) = revenusPrevus.liaisons.map (fun e => some e.1) ∧
      p.depensesRestantesCents = (lignesDepenses.map (·.restantCents)).sum ∧
      p.revenusRestantsCents = (lignesRevenus.map (·.restantCents)).sum

/-- The forecast in terms of what remains on each side. -/
theorem calculerPrevisionnel_eq (categories : HashMap Uuid Category)
    (hdepenses : depenses.SansDoublon) (hrevenus : revenus.SansDoublon)
    (hborne : PrevisionBornee solde depensesPrevues revenusPrevus depenses revenus) :
    let p := calculerPrevisionnel solde depensesPrevues revenusPrevus depenses revenus categories
    p.depensesRestantesCents = resteTotal depensesPrevues depenses ∧
      p.revenusRestantsCents = resteTotal revenusPrevus revenus ∧
      p.soldePrevisionnelCents =
        solde + resteTotal revenusPrevus revenus - resteTotal depensesPrevues depenses := by
  have hd := somme_lignesPrevision categories hdepenses hborne.coteDepenses
  have hr := somme_lignesPrevision categories hrevenus hborne.coteRevenus
  refine ⟨hd, hr, ?_⟩
  show i64 (i64 (solde + sommeI64 _) - sommeI64 _) = _
  rw [hd, hr, i64_of_estI64 hborne.encaisse, i64_of_estI64 hborne.projete]

/-- The forecast law holds, whatever the order of the maps.  What is spent or received in a
predicted category changes it by the excess over what remained predicted. -/
theorem calculerPrevisionnel_spec (hdepenses : depenses.SansDoublon)
    (hrevenus : revenus.SansDoublon)
    (hborne : PrevisionBornee solde depensesPrevues revenusPrevus depenses revenus) :
    (calculerPrevisionnel solde depensesPrevues revenusPrevus depenses revenus categories).Exact
      solde depensesPrevues revenusPrevus depenses revenus ∧
    (∀ depensesPrevues' revenusPrevus' categories',
      (∀ c, depensesPrevues'.lookup c = depensesPrevues.lookup c) →
      (∀ c, revenusPrevus'.lookup c = revenusPrevus.lookup c) →
      (calculerPrevisionnel solde depensesPrevues' revenusPrevus' depenses revenus
          categories').soldePrevisionnelCents =
        (calculerPrevisionnel solde depensesPrevues revenusPrevus depenses revenus
          categories).soldePrevisionnelCents) ∧
    (∀ c prevu x depenses', depensesPrevues.lookup c = some prevu → 0 ≤ x →
      depenses'.SansDoublon → depenses'.montantDe c = depenses.montantDe c + x →
      (∀ c', c' ≠ c → depenses'.montantDe c' = depenses.montantDe c') →
      PrevisionBornee (solde - x) depensesPrevues revenusPrevus depenses' revenus →
      (calculerPrevisionnel (solde - x) depensesPrevues revenusPrevus depenses' revenus
          categories).soldePrevisionnelCents =
        (calculerPrevisionnel solde depensesPrevues revenusPrevus depenses revenus
          categories).soldePrevisionnelCents -
            max (x - max (prevu - depenses.montantDe c) 0) 0) ∧
    (∀ c prevu x revenus', revenusPrevus.lookup c = some prevu → 0 ≤ x →
      revenus'.SansDoublon → revenus'.montantDe c = revenus.montantDe c + x →
      (∀ c', c' ≠ c → revenus'.montantDe c' = revenus.montantDe c') →
      PrevisionBornee (solde + x) depensesPrevues revenusPrevus depenses revenus' →
      (calculerPrevisionnel (solde + x) depensesPrevues revenusPrevus depenses revenus'
          categories).soldePrevisionnelCents =
        (calculerPrevisionnel solde depensesPrevues revenusPrevus depenses revenus
          categories).soldePrevisionnelCents +
            max (x - max (prevu - revenus.montantDe c) 0) 0) := by
  obtain ⟨hd, hr, hsolde⟩ := calculerPrevisionnel_eq categories hdepenses hrevenus
    hborne
  refine ⟨⟨?_, rfl, hd, hr, ?_⟩, ?_, ?_, ?_⟩
  · rw [hsolde, hd, hr]
    rfl
  · refine ⟨lignesPrevision categories depensesPrevues (indexerParCategorie depenses),
      lignesPrevision categories revenusPrevus (indexerParCategorie revenus),
      Relational.perm_sortBy _ _, ?_, ?_, ?_, ?_⟩
    · simp [lignesPrevision, Function.comp_def]
    · simp [lignesPrevision, Function.comp_def]
    · rw [hd, restants_lignesPrevision hdepenses hborne.coteDepenses, resteTotal]
    · rw [hr, restants_lignesPrevision hrevenus hborne.coteRevenus, resteTotal]
  · intro depensesPrevues' revenusPrevus' categories' hmemesDepenses hmemesRevenus
    have hborne' : PrevisionBornee solde depensesPrevues' revenusPrevus' depenses revenus := by
      refine ⟨hborne.coteDepenses.congr hmemesDepenses,
        hborne.coteRevenus.congr hmemesRevenus, ?_, ?_⟩
      · rw [resteTotal_congr hmemesRevenus]
        exact hborne.encaisse
      · rw [resteTotal_congr hmemesRevenus, resteTotal_congr hmemesDepenses]
        exact hborne.projete
    obtain ⟨-, -, hsolde'⟩ := calculerPrevisionnel_eq categories' hdepenses
      hrevenus hborne'
    rw [hsolde, hsolde', resteTotal_congr hmemesRevenus, resteTotal_congr hmemesDepenses]
  · intro c prevu x depenses' hc hx hdoublon hrealise hautres hborne'
    obtain ⟨-, -, hsolde'⟩ := calculerPrevisionnel_eq categories hdoublon hrevenus
      hborne'
    have htotal := resteTotal_realiser hc hautres
    have hreste := resteDe_realiser prevu hx hrealise
    rw [hsolde, hsolde']
    show _ = _ - max (x - resteDe depenses c prevu) 0
    omega
  · intro c prevu x revenus' hc hx hdoublon hrealise hautres hborne'
    obtain ⟨-, -, hsolde'⟩ := calculerPrevisionnel_eq categories hdepenses hdoublon
      hborne'
    have htotal := resteTotal_realiser hc hautres
    have hreste := resteDe_realiser prevu hx hrealise
    rw [hsolde, hsolde']
    show _ = _ + max (x - resteDe revenus c prevu) 0
    omega

end Forecast

/-! ## Groceries, books and a salary -/

/-- The amount of one category in a cycle. -/
def realisation (categorie : ℕ) (montant : ℤ) : RepartitionDepenses :=
  ⟨montant, [⟨some
    { id := Uuid.fromU128 categorie, ownerId := none, name := "", kind := .depense,
      color := "#607D8B", icon := "tag", createdAt := 0 }, montant⟩]⟩

/-- Three hundred euros of groceries and fifty of books are predicted. -/
def achatsPrevus : HashMap Uuid ℤ :=
  .collect [(Uuid.fromU128 1, 30000), (Uuid.fromU128 3, 5000)]

/-- The same predictions, in the other order. -/
def achatsPrevusInverses : HashMap Uuid ℤ :=
  .collect [(Uuid.fromU128 3, 5000), (Uuid.fromU128 1, 30000)]

/-- A pay of two thousand euros is planned. -/
def salairePrevu : HashMap Uuid ℤ := .collect [(Uuid.fromU128 2, 200000)]

/-- The forecast from a balance, what the groceries cost and what the salary gave. -/
def previsionCourses (solde courses salaire : ℤ) : Previsionnel :=
  calculerPrevisionnel solde achatsPrevus salairePrevu (realisation 1 courses)
    (realisation 2 salaire) ∅

/-- A breakdown of one line names its category once. -/
private theorem sansDoublon_realisation (categorie : ℕ) (montant : ℤ) :
    (realisation categorie montant).SansDoublon := List.nodup_singleton _

/-- The bounds of a side, checked on its bindings. -/
private theorem coteBorne_of_liaisons
    (h : ∀ e ∈ prevues.liaisons, EstI64 (e.2 - realise.montantDe e.1))
    (htotal : resteTotal prevues realise ≤ i64Max) : CoteBorne prevues realise :=
  ⟨fun c prevu hc => h (c, prevu) (mem_liaisons.2 hc), htotal⟩

/-- One thousand euros, with a hundred of groceries already paid and five hundred of the salary
to come.  A purchase of two hundred and fifty goes fifty beyond what was predicted, a payment of
six hundred a hundred beyond. -/
theorem previsionnel_courses :
    (previsionCourses 100000 10000 150000).Exact 100000 achatsPrevus salairePrevu
        (realisation 1 10000) (realisation 2 150000) ∧
      (calculerPrevisionnel 100000 achatsPrevusInverses salairePrevu (realisation 1 10000)
          (realisation 2 150000) ∅).soldePrevisionnelCents =
        (previsionCourses 100000 10000 150000).soldePrevisionnelCents ∧
      (previsionCourses (100000 - 25000) 35000 150000).soldePrevisionnelCents =
        (previsionCourses 100000 10000 150000).soldePrevisionnelCents - 5000 ∧
      (previsionCourses (100000 + 60000) 10000 210000).soldePrevisionnelCents =
        (previsionCourses 100000 10000 150000).soldePrevisionnelCents + 10000 := by
  have hachats : ∀ courses ∈ ([10000, 35000] : List ℤ),
      CoteBorne achatsPrevus (realisation 1 courses) := fun courses hcourses =>
    coteBorne_of_liaisons (by revert courses; decide +kernel) (by revert courses; decide +kernel)
  have hsalaire : ∀ salaire ∈ ([150000, 210000] : List ℤ),
      CoteBorne salairePrevu (realisation 2 salaire) := fun salaire hs =>
    coteBorne_of_liaisons (by revert salaire; decide +kernel) (by revert salaire; decide +kernel)
  have hautres : ∀ (categorie : ℕ) (n m : ℤ) (c : Uuid), c ≠ Uuid.fromU128 categorie →
      (realisation categorie n).montantDe c = (realisation categorie m).montantDe c := by
    intro categorie n m c hc
    simp [RepartitionDepenses.montantDe, realisation, Grouping.sumAt, LigneDepenseCategorie.cle,
      Ne.symm hc]
  have hborne : PrevisionBornee 100000 achatsPrevus salairePrevu (realisation 1 10000)
      (realisation 2 150000) :=
    ⟨hachats _ (by simp), hsalaire _ (by simp), by decide +kernel, by decide +kernel⟩
  obtain ⟨hexact, hordre, hdepense, hrevenu⟩ := @calculerPrevisionnel_spec ∅ _ _ _ _ _
    (sansDoublon_realisation 1 10000) (sansDoublon_realisation 2 150000) hborne
  refine ⟨hexact, ?_, ?_, ?_⟩
  · refine hordre achatsPrevusInverses salairePrevu ∅ (fun c => Option.ext fun v => ?_) fun _ => rfl
    rw [← Option.mem_def, ← Option.mem_def, achatsPrevusInverses, achatsPrevus,
      mem_lookup_collect (by decide), mem_lookup_collect (by decide)]
    simp [or_comm]
  · exact hdepense (Uuid.fromU128 1) 30000 25000 (realisation 1 35000) (by decide +kernel)
      (by decide) (sansDoublon_realisation 1 35000) (by decide +kernel)
      (fun c hc => hautres 1 _ _ c hc)
      ⟨hachats _ (by simp), hsalaire _ (by simp), by decide +kernel, by decide +kernel⟩
  · exact hrevenu (Uuid.fromU128 2) 200000 60000 (realisation 2 210000) (by decide +kernel)
      (by decide) (sansDoublon_realisation 2 210000) (by decide +kernel)
      (fun c hc => hautres 2 _ _ c hc)
      ⟨hachats _ (by simp), hsalaire _ (by simp), by decide +kernel, by decide +kernel⟩

end Budgy
