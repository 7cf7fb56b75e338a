import Mathlib.Data.Fin.Basic
import Mathlib.Data.Nat.Digits.Defs
import Mathlib.Data.Nat.Digits.Lemmas
import Mathlib.Order.Fin.Basic
import Mathlib.Tactic.Common
import Budgy.Interface.Calendar
import Budgy.Interface.Text

/-!
# Identifiers, instants and machine integers

The values every table is made of.  A `Uuid` is its 128-bit number, compared as
its sixteen bytes are; an instant is a number of microseconds since the Unix
epoch, the resolution at which the database keeps it.
-/

set_option autoImplicit false

namespace Budgy

/-! ## Identifiers -/

/-- `uuid::Uuid`. -/
@[ext]
structure Uuid where
  asU128 : Fin (2 ^ 128)
  deriving DecidableEq

namespace Uuid

/-- `Uuid::from_u128`. -/
def fromU128 (n : ℕ) : Uuid := ⟨Fin.ofNat (2 ^ 128) n⟩

/-- `Uuid::as_bytes`: sixteen bytes, most significant first. -/
def asBytes (id : Uuid) : List UInt8 :=
  (List.range 16).map fun i => UInt8.ofNat (id.asU128.val / 256 ^ (15 - i) % 256)

instance : LinearOrder Uuid :=
  LinearOrder.lift' asU128 fun _ _ h => Uuid.ext h

/-- An identifier is written on sixteen bytes. -/
@[simp]
theorem length_asBytes (id : Uuid) : id.asBytes.length = 16 := by
  simp [asBytes]

/-- Two numbers with the same digits in a base agree modulo its powers. -/
private theorem mod_pow_eq {b m n k : ℕ} (h : ∀ j < k, m / b ^ j % b = n / b ^ j % b) :
    m % b ^ k = n % b ^ k := by
  induction k with
  | zero => simp [Nat.mod_one]
  | succ k ih =>
      rw [pow_succ, Nat.mod_mul, Nat.mod_mul, ih fun j hj => h j (by omega), h k (by omega)]

/-- An identifier is known by its digits, most significant first, in a base of which
`2 ^ 128` is a power. -/
private theorem eq_of_digits {id id' : Uuid} {b k : ℕ} (hb : b ^ k = 2 ^ 128)
    (h : ∀ i < k, id.asU128.val / b ^ (k - 1 - i) % b = id'.asU128.val / b ^ (k - 1 - i) % b) :
    id = id' := by
  have hdigit : ∀ j < k, id.asU128.val / b ^ j % b = id'.asU128.val / b ^ j % b := by
    intro j hj
    have := h (k - 1 - j) (by omega)
    rwa [show k - 1 - (k - 1 - j) = j from by omega] at this
  have hmod := mod_pow_eq hdigit
  rw [hb, Nat.mod_eq_of_lt id.asU128.isLt, Nat.mod_eq_of_lt id'.asU128.isLt] at hmod
  exact Uuid.ext (Fin.ext hmod)

/-- Two identifiers of the same bytes are the same. -/
theorem asBytes_injective : Function.Injective asBytes := by
  intro id id' h
  refine eq_of_digits (b := 256) (k := 16) (by norm_num) fun i hi => ?_
  have hget := congrArg (fun l => (l[i]?).map UInt8.toNat) h
  simpa [asBytes, hi] using hget

/-- The hexadecimal digit of a number below 16. -/
def hexDigit (n : ℕ) : Char := Nat.digitChar n

/-- The value of a hexadecimal digit, of either case. -/
def hexValue? (c : Char) : Option ℕ :=
  if c.isDigit then some (c.toNat - 48)
  else if 'a' ≤ c ∧ c ≤ 'f' then some (c.toNat - 87)
  else if 'A' ≤ c ∧ c ≤ 'F' then some (c.toNat - 55)
  else none

/-- The thirty-two hexadecimal digits of an identifier. -/
def hexDigits (id : Uuid) : List Char :=
  (List.range 32).map fun i => hexDigit (id.asU128.val / 16 ^ (31 - i) % 16)

/-- `Display`: lower-case digits grouped 8-4-4-4-12. -/
def toText (id : Uuid) : String :=
  let ds := id.hexDigits
  String.ofList (ds.take 8 ++ '-' :: (ds.drop 8).take 4 ++ '-' :: (ds.drop 12).take 4 ++
    '-' :: (ds.drop 16).take 4 ++ '-' :: ds.drop 20)

/-- The digits of two numbers below 16 are equal only when the numbers are. -/
private theorem hexDigit_inj {m n : ℕ} (hm : m < 16) (hn : n < 16) (h : hexDigit m = hexDigit n) :
    m = n := by
  have hall : ∀ m < 16, ∀ n < 16, hexDigit m = hexDigit n → m = n := by decide
  exact hall m hm n hn h

/-- Two identifiers of the same digits are the same. -/
theorem hexDigits_injective : Function.Injective hexDigits := by
  intro id id' h
  refine eq_of_digits (b := 16) (k := 32) (by norm_num) fun i hi => ?_
  have hget := congrArg (fun l => l[i]?) h
  simp only [hexDigits, List.getElem?_map, List.getElem?_range hi, Option.map_some,
    Option.some.injEq] at hget
  exact hexDigit_inj (Nat.mod_lt _ (by norm_num)) (Nat.mod_lt _ (by norm_num)) hget

/-- Two lists that agree on a stretch and after it agree from its start. -/
private theorem drop_eq_drop {l l' : List Char} {n k : ℕ}
    (htake : (l.drop n).take k = (l'.drop n).take k) (hdrop : l.drop (n + k) = l'.drop (n + k)) :
    l.drop n = l'.drop n := by
  rw [← List.take_append_drop k (l.drop n), ← List.take_append_drop k (l'.drop n), htake,
    List.drop_drop, List.drop_drop, hdrop]

/-- Two identifiers of the same text are the same. -/
theorem toText_injective : Function.Injective toText := by
  intro id id' h
  have hlength : ∀ x : Uuid, x.hexDigits.length = 32 := fun x => by simp [hexDigits]
  have htext := String.ofList_inj.1 h
  simp only [List.append_assoc, List.cons_append] at htext
  -- the five groups have the same lengths on both sides
  obtain ⟨h₁, htext⟩ := List.append_inj htext (by simp [hlength])
  obtain ⟨h₂, htext⟩ := List.append_inj (List.cons.inj htext).2 (by simp [hlength])
  obtain ⟨h₃, htext⟩ := List.append_inj (List.cons.inj htext).2 (by simp [hlength])
  obtain ⟨h₄, htext⟩ := List.append_inj (List.cons.inj htext).2 (by simp [hlength])
  have h₁₆ := drop_eq_drop h₄ (List.cons.inj htext).2
  have h₁₂ := drop_eq_drop h₃ h₁₆
  have h₈ := drop_eq_drop h₂ h₁₂
  apply hexDigits_injective
  rw [← List.take_append_drop 8 id.hexDigits, ← List.take_append_drop 8 id'.hexDigits, h₁, h₈]

/-- The identifier written by thirty-two hexadecimal digits. -/
def ofHex? (ds : List Char) : Option Uuid :=
  if ds.length = 32 then
    (ds.mapM hexValue?).map fun vs => fromU128 (vs.foldl (fun n v => 16 * n + v) 0)
  else none

/-- The hexadecimal digits of the hyphenated form, when the hyphens are in place. -/
def unhyphenate? (cs : List Char) : Option (List Char) :=
  if cs.length = 36 ∧ cs[8]? = some '-' ∧ cs[13]? = some '-' ∧ cs[18]? = some '-' ∧
      cs[23]? = some '-' then
    some (cs.take 8 ++ (cs.drop 9).take 4 ++ (cs.drop 14).take 4 ++ (cs.drop 19).take 4 ++
      cs.drop 24)
  else none

/-- `Uuid::parse_str`: the simple, hyphenated, braced and URN forms. -/
def parseStr? (s : String) : Option Uuid :=
  let cs := s.toList
  let bare (body : List Char) : Option Uuid := (unhyphenate? body).bind ofHex?
  if cs.length = 32 then ofHex? cs
  else if cs.length = 36 then bare cs
  else if cs.length = 38 ∧ cs.head? = some '\x7b' ∧ cs.getLast? = some '\x7d' then
    bare ((cs.drop 1).take 36)
  else if cs.length = 45 ∧ "urn:uuid:".toList.isPrefixOf cs then bare (cs.drop 9)
  else none

end Uuid

/-- `ProprietaireId`: the owner, a text of the token. -/
abbrev ProprietaireId := String
/-- `ConsentId`. -/
abbrev ConsentId := Uuid
/-- `BankAccountId`. -/
abbrev BankAccountId := Uuid
/-- `BalanceId`. -/
abbrev BalanceId := Uuid
/-- `TransactionBancaireId`. -/
abbrev TransactionBancaireId := Uuid
/-- `CategoryId`. -/
abbrev CategoryId := Uuid
/-- `RegleCategorisationId`. -/
abbrev RegleCategorisationId := Uuid
/-- `EnveloppeId`. -/
abbrev EnveloppeId := Uuid
/-- `BudgetId`. -/
abbrev BudgetId := Uuid

/-! ## Instants and dates -/

/-- `NaiveDate`. -/
abbrev NaiveDate := Gregorian.Date

/-- `DateTime<Utc>`, in microseconds since 1970-01-01. -/
abbrev DateTime := ℤ

/-- `Duration`, in microseconds. -/
abbrev Duration := ℤ

namespace Duration

/-- An hour, in microseconds. -/
def heure : Duration := 3600000000

/-- `Duration::hours`. -/
def hours (n : ℤ) : Duration := n * heure

/-- `Duration::days`. -/
def days (n : ℤ) : Duration := n * (24 * heure)

end Duration

namespace DateTime

/-- The number of the day an instant falls on. -/
def dayNumber (t : DateTime) : ℤ := t / Duration.days 1

/-- `DateTime::date_naive`. -/
def dateNaive (t : DateTime) : NaiveDate := Gregorian.Date.ofDays t.dayNumber

/-- Dates are ordered as the numbers of their days. -/
theorem dateNaive_le_dateNaive {t t' : DateTime} :
    t.dateNaive ≤ t'.dateNaive ↔ t.dayNumber ≤ t'.dayNumber :=
  Gregorian.Date.ofDays_le_ofDays

end DateTime

/-! ## Machine integers -/

/-- `i64` arithmetic wraps around in a release build. -/
def i64 (n : ℤ) : ℤ := Int.bmod n (2 ^ 64)

/-- `i64::MIN`. -/
def i64Min : ℤ := -2 ^ 63
/-- `i64::MAX`. -/
def i64Max : ℤ := 2 ^ 63 - 1

/-- The values of an `i64`. -/
def EstI64 (n : ℤ) : Prop := i64Min ≤ n ∧ n ≤ i64Max

instance (n : ℤ) : Decidable (EstI64 n) := inferInstanceAs (Decidable (_ ∧ _))

/-- A machine integer does not wrap. -/
theorem i64_of_estI64 {n : ℤ} (h : EstI64 n) : i64 n = n := by
  unfold EstI64 i64Min i64Max at h
  exact Int.bmod_eq_of_le (by omega) (by omega)

/-- `i64::saturating_add`. -/
def saturatingAdd (a b : ℤ) : ℤ := max i64Min (min i64Max (a + b))

end Budgy
