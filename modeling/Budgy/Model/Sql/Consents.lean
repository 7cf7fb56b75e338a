import Budgy.Model.Store

/-!
# The statements of `repository/consents.rs`
-/

set_option autoImplicit false

namespace Budgy

open Relational (arrange sortBy)

/-- The statements on consents, with their parameters. -/
inductive RequeteConsent where
  | insertInitie (id : Uuid) (owner : ProprietaireId) (externalRef : List UInt8)
      (etablissement : String) (status : ConsentStatus) (expiresAt : Option DateTime)
  | mettreAJour (status : ConsentStatus) (externalRef : List UInt8)
      (expiresAt : Option DateTime) (id : Uuid) (owner : ProprietaireId)
  | marquerStatutProprietaire (status : ConsentStatus) (id : Uuid) (owner : ProprietaireId)
  | fetchPourProprietaire (id : Uuid) (owner : ProprietaireId)
  | listerParProprietaire (owner : ProprietaireId)
  | listerActifsParProprietaire (owner : ProprietaireId)
  | supprimerParProprietaire (owner : ProprietaireId)
  | marquerStatutConsent (id : Uuid) (status : ConsentStatus)

namespace RequeteConsent

/-- What the statement returns: rows, or the number of rows it touched. -/
abbrev Reponse : RequeteConsent → Type
  | insertInitie .. => Uuid
  | mettreAJour .. => ℕ
  | marquerStatutProprietaire .. => ℕ
  | fetchPourProprietaire .. => Option ConsentRow
  | listerParProprietaire .. => List ConsentRow
  | listerActifsParProprietaire .. => List ConsentRow
  | supprimerParProprietaire .. => ℕ
  | marquerStatutConsent .. => ℕ

/-- What each statement does to the database. -/
def effet (x : ChoixSql) (s : Store) : (r : RequeteConsent) → Except SqlxError (r.Reponse × Store)
  | insertInitie id owner externalRef etablissement status expiresAt =>
      let ligne : ConsentRow :=
        { id, ownerId := owner, externalRef, etablissement := some etablissement, status,
          expiresAt, createdAt := x.maintenant, updatedAt := x.maintenant }
      cleLibre s.consent ligne fun t => .ok (id, { s with consent := t })
  | mettreAJour status externalRef expiresAt id owner =>
      let vise (c : ConsentRow) : Bool := c.id = id && c.ownerId = owner
      .ok (s.consent.count vise,
        s.majConsent vise fun c =>
          { c with status, externalRef, expiresAt, updatedAt := x.maintenant })
  | marquerStatutProprietaire status id owner =>
      let vise (c : ConsentRow) : Bool := c.id = id && c.ownerId = owner
      .ok (s.consent.count vise,
        s.majConsent vise fun c => { c with status, updatedAt := x.maintenant })
  | fetchPourProprietaire id owner =>
      lire s ((s.consent.find? id).filter fun c => c.ownerId = owner)
  | listerParProprietaire owner =>
      lire s (sortBy (fun c => -c.createdAt)
        (arrange ConsentRow.id x.rang (s.consent.select fun c => c.ownerId = owner)))
  | listerActifsParProprietaire owner =>
      lire s (arrange ConsentRow.id x.rang
        (s.consent.select fun c => c.ownerId = owner && c.status = .active))
  | supprimerParProprietaire owner =>
      let vise (c : ConsentRow) : Bool := c.ownerId = owner
      .ok (s.consent.count vise, s.supprimerConsents vise)
  | marquerStatutConsent id status =>
      let vise (c : ConsentRow) : Bool := c.id = id
      .ok (s.consent.count vise,
        s.majConsent vise fun c => { c with status, updatedAt := x.maintenant })

end RequeteConsent

end Budgy
