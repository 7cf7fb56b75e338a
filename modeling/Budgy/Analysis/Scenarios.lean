import Budgy.Model.Systeme

/-!
# A setting for concrete runs

A cipher that hides nothing, a seeded database, and a world that answers as it is
told.  The cipher satisfies what the program relies on, so the hypotheses `Fiable`
and `SansCollision` can be met together, and the database is as the migrations
leave it.
-/

set_option autoImplicit false

namespace Budgy

open Effects Relational

/-! ## A cipher in clear -/

/-- The cipher that only appends a tag; a fingerprint is the message it is taken of. -/
def enClair : CryptoService where
  sceller _ message _ := some (message ++ List.replicate tagBytes 0)
  ouvrir _ chiffre _ := some (chiffre.take (chiffre.length - tagBytes))
  mac message := String.ofList (message.map Char.ofUInt8)

/-- Storing texts in clear can be read back. -/
theorem fiable_enClair : enClair.Fiable := by
  intro nonce message aad
  refine ⟨_, rfl, by simp, ?_⟩
  simp [enClair]

/-- Two texts in clear have two fingerprints. -/
theorem mac_enClair_injective : Function.Injective enClair.mac := by
  intro m m' h
  refine List.map_injective_iff.2 ?_ (String.ofList_injective h)
  intro a b hab
  have hval : a.toUInt32 = b.toUInt32 := congrArg Char.val hab
  exact UInt8.toNat_inj.1 (by simpa using congrArg UInt32.toNat hval)

/-- No two texts in clear collide. -/
theorem sansCollision_enClair (U : Set (List UInt8)) : enClair.SansCollision U :=
  fun _ _ _ _ h => mac_enClair_injective h

/-! ## The seeded database -/

/-- The system categories, under keys counted from one. -/
def categoriesAmorcees : Table Category.id where
  rows := categoriesSemees.zipIdx.map fun c =>
    { id := if c.1.1 = "Virements internes" then categorieVirementsInternes
        else Uuid.fromU128 (c.2 + 1)
      ownerId := none
      name := c.1.1
      kind := c.1.2.1
      color := c.1.2.2.1
      icon := c.1.2.2.2
      createdAt := 0 }
  nodup := by decide

/-- The database as the migrations leave it. -/
def amorcee : Store := { Store.vide with category := categoriesAmorcees }

/-- The store the migrations leave is a seeded one. -/
theorem amorcee_amorcee : amorcee.Amorcee where
  consent := rfl
  bankAccount := rfl
  balance := rfl
  bankTransaction := rfl
  reglesCategorisation := rfl
  budgets := rfl
  preferencesUtilisateur := rfl
  enveloppe := rfl
  category := by decide
  systeme := by
    have h : ∀ c ∈ categoriesAmorcees.rows, c.ownerId = none := by decide
    exact h
  virementsInternes := by
    have h : ∀ c ∈ categoriesAmorcees.rows,
        c.id = categorieVirementsInternes ↔ c.name = "Virements internes" := by decide
    exact h

/-! ## A world that answers as told -/

/-- What the bank lists, the clock and the failures, each given for the request of
a given rank. -/
structure Scenario where
  comptes : ℕ → Except BankDataSourceError (List BankAccount)
  soldes : ℕ → Except BankDataSourceError (List Balance)
  transactions : ℕ → Except BankDataSourceError (List TransactionBancaire)
  horloge : ℕ → DateTime
  panne : ℕ → Option String

/-- The consent the bank describes. -/
def consentBancaire (id : ConsentId) (proprietaire : ProprietaireId) : Consent :=
  { id, proprietaire, externalRef := "ref", etablissement := some "banque", status := .active,
    expiresAt := none, createdAt := 0, updatedAt := 0 }

/-- The callback of the bank for the first consent of a run. -/
def reponseBanque : ConsentCallbackRequest := ⟨"code", (Uuid.fromU128 1000).toText⟩

/-- An account as the bank lists it. -/
def compteBancaire (externe : String) : BankAccount :=
  { id := Uuid.fromU128 0, proprietaire := "", consent := Uuid.fromU128 0,
    externalAccountId := externe, ibanMasked := "FR76", currency := "EUR", nextSyncAt := none,
    syncCountToday := 0, createdAt := 0, updatedAt := 0 }

/-- A booked transaction, as it is observed on an account. -/
def observationDe (compte : BankAccountId) (externe label : String) (montant jour : ℤ) :
    NouvelleTransactionBancaire :=
  { bankAccount := compte, externalTransactionId := externe, status := .booked, label,
    amountCents := montant, currency := "EUR",
    bookingDate := some (Gregorian.Date.ofDays jour), valueDate := none }

/-- A user opens a consent, and the bank calls back with its accounts. -/
def rattachement : List Operation :=
  [.createConsent "alice" "banque", .completeConsent "alice" reponseBanque]

/-- The observation of a transaction of the first account that a run attaches. -/
def mouvementDe (externe label : String) (montant jour : ℤ) : Operation :=
  .enregistrer (observationDe (Uuid.fromU128 1012) externe label montant jour)

namespace Scenario

/-- The month of the transactions of the scenarios. -/
def octobre : Mois := ⟨2024, 10, by decide, by decide⟩

/-- The month after it. -/
def novembre : Mois := ⟨2024, 11, by decide, by decide⟩

/-- A bank with nothing to list, a clock that stands still, no failure. -/
def calme : Scenario :=
  ⟨fun _ => .ok [], fun _ => .ok [], fun _ => .ok [], fun _ => 0, fun _ => none⟩

/-- A bank with one account to list. -/
def unCompte : Scenario := { calme with comptes := fun _ => .ok [compteBancaire "FR1"] }

/-- A bank with two accounts to list. -/
def deuxComptes : Scenario :=
  { calme with comptes := fun _ => .ok [compteBancaire "FR1", compteBancaire "FR2"] }

variable (sc : Scenario)

/-- The bank of the scenario at its `n`-th instant. -/
def banque (n : ℕ) : (a : AppelBanque) → Except BankDataSourceError a.Reponse
  | .listerEtablissements => .ok []
  | .initierConsentement demande =>
      .ok ⟨consentBancaire demande.consentId demande.proprietaire, "https://banque"⟩
  | .completerConsentement proprietaire _ =>
      .ok (consentBancaire (Uuid.fromU128 0) proprietaire)
  | .listerComptes _ => sc.comptes n
  | .solde _ _ => sc.soldes n
  | .listerTransactions _ _ _ => sc.transactions n
  | .revoquerConsentement consent => .ok consent

/-- The request of rank `n` is answered; a key it generates is `1000 + n`. -/
def choix (n : ℕ) : (o : Op) → o.Choix
  | .sql _ => ⟨sc.panne n, fun _ => 0, Uuid.fromU128 (1000 + n), sc.horloge n⟩
  | .banque a => sc.banque n a
  | .publier _ => ()
  | .nonce => ⟨List.replicate nonceBytes 0, rfl⟩
  | .uuidV4 => Uuid.fromU128 (1000 + n)
  | .maintenant => sc.horloge n

/-- Names are compared by code points. -/
def collation : Collation := ⟨fun s => s.toList.map Char.toNat⟩

/-- The configuration of the scenarios: texts in clear and the default parameters. -/
def configuration : Configuration := ⟨enClair, "https://budgy", .defaut⟩

/-- The run of a list of operations, from the seeded database. -/
def etapes (operations : List Operation) : List (Etape collation configuration) :=
  (runAll (service configuration) (machine collation) sc.choix operations 0 amorcee).1

/-- The database it ends with. -/
def fin (operations : List Operation) : Store :=
  (runAll (service configuration) (machine collation) sc.choix operations 0 amorcee).2

/-- The operations of a scenario are an execution from the seeded store. -/
theorem execution (operations : List Operation) :
    Execution collation configuration amorcee (sc.etapes operations) (sc.fin operations) :=
  execution_runAll _ _ _ _

/-- The steps of a scenario are the operations it was given. -/
theorem calls_etapes (operations : List Operation) :
    (sc.etapes operations).map Step.call = operations :=
  calls_runAll _ _ _ _

end Scenario

/-- A user who attached an account, and did nothing else. -/
def avecCompte : Store := Scenario.unCompte.fin rattachement

/-- A user who attached two accounts. -/
def avecDeuxComptes : Store := Scenario.deuxComptes.fin rattachement

end Budgy
