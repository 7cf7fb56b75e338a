import Budgy.Model.Repository.Comptes
import Budgy.Model.Repository.Consents

/-!
# `domain/effacement.rs`

The erasure of an owner: the active consents are revoked at the bank, whose
failures are counted and ignored, then the accounts and the consents are deleted.
-/

set_option autoImplicit false

namespace Budgy

open Effects

/-- `RapportEffacement`: what the erasure deleted and revoked. -/
structure RapportEffacement where
  consentementsSupprimes : ℕ
  comptesSupprimes : ℕ
  revocationsDemandees : ℕ
  revocationsEchouees : ℕ
  deriving DecidableEq

namespace Effacement

variable (crypto : CryptoService)

/-- The loop over the active consents. -/
def revoquer (rapport : RapportEffacement) (consent : Consent) :
    Tache EffacementError RapportEffacement := do
  let rapport := { rapport with revocationsDemandees := rapport.revocationsDemandees + 1 }
  match ← Task.attempt (appelerBanque (.revoquerConsentement consent)) with
  | .ok _ => return rapport
  | .error _ => return { rapport with revocationsEchouees := rapport.revocationsEchouees + 1 }

/-- `effacer_donnees_proprietaire`: the active consents are revoked at the bank, then the
accounts and the consents are deleted. -/
def effacerDonneesProprietaire (proprietaire : ProprietaireId) :
    Tache EffacementError RapportEffacement := do
  let actifs ← (ConsentsAdapter.listerActifsParProprietaire crypto proprietaire).mapError .lecture
  let rapport ← actifs.foldlM revoquer ⟨0, 0, 0, 0⟩
  let comptesSupprimes ←
    (BankAccountsAdapter.supprimerParProprietaire proprietaire).mapError .ecriture
  let consentementsSupprimes ←
    (ConsentsAdapter.supprimerParProprietaire proprietaire).mapError .ecriture
  return { rapport with comptesSupprimes, consentementsSupprimes }

end Effacement

end Budgy
