import ServiceOrderOs.L2Domain.Validation
import ServiceOrderOs.L6Api.ServerRuns

/-!
# The schemas of customers and vehicles

What the framework makes of a JSON body before a route sees it: the fields with
their lengths, and the validators of documents and plates, which return the
normal form.

* `customer_revalidated`, `vehicle_revalidated`: what a schema has made, it
  accepts, and makes nothing else of it.
* `canonical_documents_iff`: when a document has one accepted form.
-/
namespace ServiceOrderOs.Api
open Core Py Domain App

variable {α : Type}

/-- The types of a field the schemas take from the framework. -/
structure Pydantic where
  emailStr : String → Option String
  toBool : Json → Option Bool
  toInt : Json → Option Int

/-- What it documents of them: an email's normal form is normal, and a value of
the type is taken as it is. -/
structure Pydantic.Lawful (py : Pydantic) : Prop where
  emailStr : ∀ s e, py.emailStr s = some e → py.emailStr e = some e
  toBool : ∀ b, py.toBool (.bool b) = some b
  toInt : ∀ n, py.toInt (.int n) = some n

/-- A field that must be text. -/
def strField (d : Dict) (key : String) : Option String :=
  match d.get? key with
  | some (.str s) => some s
  | _ => none

/-- `key: str = Field(min_length=lo, max_length=hi)` -/
def textField (d : Dict) (key : String) (lo hi : Nat) : Option String :=
  (strField d key).filter fun s => lo ≤ s.length ∧ s.length ≤ hi

/-- mirrors src/presentation/api/routes/customer_routes.py:32-39 -/
def validateCpfCnpj : Option String → Except PyError (Option String)
  | none => .ok none
  | some value =>
    if isValidCpfCnpj value then .ok (some (normalizeDigits value))
    else .error (.valueError "Invalid CPF/CNPJ")

/-- mirrors src/presentation/api/routes/vehicle_routes.py:32-37 -/
def validatePlate (value : String) : Except PyError String :=
  if isValidBrPlate value then .ok (normalizePlate value)
  else .error (.valueError "Invalid vehicle plate")

/-- `cpf_cnpj: str | None = None`, with its validator -/
def cpfCnpjField (d : Dict) : Option (Option String) :=
  match d.get? "cpf_cnpj" with
  | none | some .null => some none
  | some (.str s) => (validateCpfCnpj (some s)).toOption
  | some _ => none

section Schemas
variable (py : Pydantic)

/-- mirrors src/presentation/api/routes/customer_routes.py:25-30 -/
def CustomerRequest.validate (d : Dict) : Option CustomerRequest := do
  let name ← textField d "name" 1 255
  let cpfCnpj ← cpfCnpjField d
  let email ← (strField d "email").bind py.emailStr
  let phone ← textField d "phone" 1 32
  let isActive ← (d.get? "is_active").elim (some true) py.toBool
  return ⟨name, cpfCnpj, email, phone, isActive⟩

/-- mirrors src/presentation/api/routes/vehicle_routes.py:25-37 -/
def VehicleRequest.validate (d : Dict) : Option VehicleRequest := do
  let customerId ← strField d "customer_id"
  let brand ← textField d "brand" 1 100
  let model ← textField d "model" 1 100
  let year ← ((d.get? "year").bind py.toInt).filter fun n => 1900 ≤ n ∧ n ≤ 2100
  let plate ← textField d "plate" 1 20
  let plate ← (validatePlate plate).toOption
  return ⟨customerId, brand, model, year, plate⟩

/-- A JSON body against a schema. -/
def readBody (validate : Dict → Option α) : Json → Body α
  | .obj d => match validate d with
    | some a => .valid a
    | none => .invalid
  | _ => .invalid

end Schemas

/-! ## The normal forms -/

theorem validateCpfCnpj_some {v : String} {d : Option String}
    (h : validateCpfCnpj (some v) = .ok d) :
    isValidCpfCnpj v = true ∧ d = some (normalizeDigits v) := by
  simp only [validateCpfCnpj] at h
  split at h
  · rename_i hv
    cases h
    exact ⟨hv, rfl⟩
  · cases h

theorem validateCpfCnpj_normal {v d : String} (h : validateCpfCnpj (some v) = .ok (some d)) :
    validateCpfCnpj (some d) = .ok (some d) := by
  obtain ⟨hv, hd⟩ := validateCpfCnpj_some h
  cases hd
  simp only [validateCpfCnpj, isValidCpfCnpj_normalize, hv, if_true, normalizeDigits_idem]

theorem validatePlate_ok {v p : String} (h : validatePlate v = .ok p) :
    isValidBrPlate v = true ∧ p = normalizePlate v := by
  simp only [validatePlate] at h
  split at h
  · rename_i hv
    cases h
    exact ⟨hv, rfl⟩
  · cases h

theorem validatePlate_normal {v p : String} (h : validatePlate v = .ok p) :
    validatePlate p = .ok p := by
  obtain ⟨hv, rfl⟩ := validatePlate_ok h
  simp only [validatePlate, isValidBrPlate_normalize, hv, if_true, normalizePlate_idem]

/-- A plate has seven characters. -/
theorem validatePlate_length {v p : String} (h : validatePlate v = .ok p) : p.length = 7 := by
  obtain ⟨hv, rfl⟩ := validatePlate_ok h
  simp only [isValidBrPlate, fullmatch, Bool.or_eq_true, Bool.and_eq_true, beq_iff_eq,
    List.length_cons, List.length_nil] at hv
  rcases hv with ⟨h, -⟩ | ⟨h, -⟩ <;> exact h

/-- **When documents have one accepted form.** For every two texts the
validator accepts: what it returns is canonical, and the same for the same
digits, if and only if the decimal digits of both texts are those of ASCII. -/
theorem canonical_documents_iff {v w d e : String} (hv : validateCpfCnpj (some v) = .ok (some d))
    (hw : validateCpfCnpj (some w) = .ok (some e)) :
    (Canonical d ∧ Canonical e ∧ (decimalValues v = decimalValues w → d = e)) ↔
      AsciiDigits v ∧ AsciiDigits w := by
  obtain ⟨hvalid, hd⟩ := validateCpfCnpj_some hv
  obtain ⟨hvalid', he⟩ := validateCpfCnpj_some hw
  cases hd
  cases he
  rw [canonical_iff hvalid, canonical_iff hvalid']
  refine ⟨fun h => ⟨h.1, h.2.1⟩, fun h => ⟨h.1, h.2, fun hsame => ?_⟩⟩
  exact normalizeDigits_inj ((canonical_iff hvalid).mpr h.1) ((canonical_iff hvalid').mpr h.2) hsame

/-- A masked CPF and its bare digits. -/
theorem canonical_documents_masked : Canonical "52998224725" :=
  ((canonical_documents_iff (v := "529.982.247-25") (w := "52998224725") (d := "52998224725")
    (e := "52998224725") (by decide) (by decide)).mpr
      ⟨by decide, by decide⟩).1

/-- The digits of another script before check digits in ASCII. -/
def exArabic : String := "٥٢٩٩٨٢٢٤٧25"

/-- The same CPF is accepted in two forms, and a second customer with it. -/
theorem document_written_twice :
    validateCpfCnpj (some exArabic) = .ok (some exArabic) ∧
      validateCpfCnpj (some "52998224725") = .ok (some "52998224725") ∧
      decimalValues exArabic = decimalValues "52998224725" ∧ exArabic ≠ "52998224725" ∧
      ¬ Canonical exArabic ∧
      (Runs.RegistryCall.next memoryBackend Runs.exHasher
        (Runs.RegistryCall.next memoryBackend Runs.exHasher emptyMemory
          (Runs.exCreate "customer-1" "ana@example.com" (some "52998224725")))
        (Runs.exCreate "customer-2" "bia@example.com" (some exArabic))).customers.values.length =
          2 := by
  refine ⟨by decide, by decide, by decide, by decide, fun h => ?_, by decide⟩
  exact absurd (h.ascii '٥' (by decide)) (by decide)

/-! ## What a schema has made -/

theorem strField_some {d : Dict} {key s : String} :
    strField d key = some s ↔ d.get? key = some (.str s) := by
  unfold strField
  constructor
  · intro h
    split at h
    · rename_i hs
      cases h
      exact hs
    · cases h
  · intro h
    rw [h]

theorem textField_some {d : Dict} {key s : String} {lo hi : Nat} :
    textField d key lo hi = some s ↔
      d.get? key = some (.str s) ∧ lo ≤ s.length ∧ s.length ≤ hi := by
  unfold textField
  rw [Option.filter_eq_some_iff, strField_some, decide_eq_true_eq]

theorem cpfCnpjField_normal {d : Dict} {cpfCnpj : Option String}
    (h : cpfCnpjField d = some cpfCnpj) : validateCpfCnpj cpfCnpj = .ok cpfCnpj := by
  unfold cpfCnpjField at h
  split at h
  · cases h; rfl
  · cases h; rfl
  · rename_i s _
    cases hv : validateCpfCnpj (some s) with
    | error e => rw [hv] at h; cases h
    | ok c =>
      rw [hv] at h
      cases h
      obtain ⟨-, rfl⟩ := validateCpfCnpj_some hv
      exact validateCpfCnpj_normal hv
  · cases h

/-- What a reply shows of a normal document. -/
theorem cpfCnpjField_of {d : Dict} {cpfCnpj : Option String}
    (hd : d.get? "cpf_cnpj" = some (optionalStr cpfCnpj))
    (h : validateCpfCnpj cpfCnpj = .ok cpfCnpj) : cpfCnpjField d = some cpfCnpj := by
  unfold cpfCnpjField
  rw [hd]
  cases cpfCnpj with
  | none => rfl
  | some s => simp only [optionalStr, h, Except.toOption]

section Made
variable {T : Type} {py : Pydantic}

/-- The fields of a body the schema has accepted. -/
structure CustomerRequest.Normal (py : Pydantic) (a : CustomerRequest) : Prop where
  name : 1 ≤ a.name.length ∧ a.name.length ≤ 255
  cpfCnpj : validateCpfCnpj a.cpfCnpj = .ok a.cpfCnpj
  email : py.emailStr a.email = some a.email
  phone : 1 ≤ a.phone.length ∧ a.phone.length ≤ 32

structure VehicleRequest.Normal (a : VehicleRequest) : Prop where
  brand : 1 ≤ a.brand.length ∧ a.brand.length ≤ 100
  model : 1 ≤ a.model.length ∧ a.model.length ≤ 100
  year : 1900 ≤ a.year ∧ a.year ≤ 2100
  plate : validatePlate a.plate = .ok a.plate
  plateLength : a.plate.length = 7

theorem CustomerRequest.validate_normal (hpy : py.Lawful) {d : Dict} {a : CustomerRequest}
    (h : CustomerRequest.validate py d = some a) : a.Normal py := by
  simp only [CustomerRequest.validate, Option.bind_eq_bind, Option.bind_eq_some_iff,
    Option.pure_def, Option.some.injEq] at h
  obtain ⟨name, hname, cpfCnpj, hcpf, email, ⟨s, -, hemail⟩, phone, hphone, isActive, -, rfl⟩ := h
  exact ⟨(textField_some.mp hname).2, cpfCnpjField_normal hcpf, hpy.emailStr _ _ hemail,
    (textField_some.mp hphone).2⟩

theorem VehicleRequest.validate_normal {d : Dict} {a : VehicleRequest}
    (h : VehicleRequest.validate py d = some a) : a.Normal := by
  simp only [VehicleRequest.validate, Option.bind_eq_bind, Option.bind_eq_some_iff,
    Option.pure_def, Option.some.injEq] at h
  obtain ⟨customerId, -, brand, hbrand, model, hmodel, year, hyear, p, hp, plate, hplate, rfl⟩ := h
  have hyear := (Option.filter_eq_some_iff.mp hyear).2
  have hplate : validatePlate p = .ok plate := by
    cases hv : validatePlate p with
    | error e => rw [hv] at hplate; cases hplate
    | ok q => rw [hv] at hplate; cases hplate; rfl
  exact ⟨(textField_some.mp hbrand).2, (textField_some.mp hmodel).2, by simpa using hyear,
    validatePlate_normal hplate, validatePlate_length hplate⟩

/-- The body with the fields of a stored record. -/
def customerRequest (c : Customer T) : CustomerRequest :=
  ⟨c.name, c.cpfCnpj, c.email, c.phone, c.isActive⟩

def vehicleRequest (v : Vehicle T) : VehicleRequest :=
  ⟨v.customerId, v.brand, v.model, v.year, v.plate⟩

/-- What a reply shows of such a record, sent as a body. -/
theorem customer_revalidated (hpy : py.Lawful) {c : Customer T}
    (h : (customerRequest c).Normal py) :
    readBody (CustomerRequest.validate py) (customerToResponse c) = .valid (customerRequest c) := by
  unfold customerToResponse readBody
  dsimp only
  unfold CustomerRequest.validate
  have hcpf : validateCpfCnpj c.cpfCnpj = .ok c.cpfCnpj := h.cpfCnpj
  have hemail : py.emailStr c.email = some c.email := h.email
  rw [(textField_some (s := c.name)).mpr ⟨by simp, h.name⟩, cpfCnpjField_of (by simp) hcpf,
    (strField_some (s := c.email)).mpr (by simp),
    (textField_some (s := c.phone)).mpr ⟨by simp, h.phone⟩]
  simp [hemail, hpy.toBool, customerRequest]

theorem vehicle_revalidated (hpy : py.Lawful) {v : Vehicle T} (h : (vehicleRequest v).Normal) :
    readBody (VehicleRequest.validate py) (vehicleToResponse v) = .valid (vehicleRequest v) := by
  have hplate : 1 ≤ v.plate.length ∧ v.plate.length ≤ 20 := by
    have hlen : v.plate.length = 7 := h.plateLength
    omega
  have hok : validatePlate v.plate = .ok v.plate := h.plate
  have hyear : 1900 ≤ v.year ∧ v.year ≤ 2100 := h.year
  unfold vehicleToResponse readBody
  dsimp only
  unfold VehicleRequest.validate
  rw [(strField_some (s := v.customerId)).mpr (by simp),
    (textField_some (s := v.brand)).mpr ⟨by simp, h.brand⟩,
    (textField_some (s := v.model)).mpr ⟨by simp, h.model⟩,
    (textField_some (s := v.plate)).mpr ⟨by simp, hplate⟩]
  simp [hpy.toInt, Option.filter, hyear, hok, Except.toOption, vehicleRequest]

end Made
end ServiceOrderOs.Api
