import ServiceOrderOs.L3App.RegistryUseCases
import ServiceOrderOs.L6Api.ServiceOrderApi

/-!
# The customer and vehicle routes

The routes under `/customers` and `/vehicles` behind their guard, with a body
the schema has accepted. Which exceptions of the use case a route catches, and
as which status, is an argument of `respond`.
-/
namespace ServiceOrderOs.Api
open Py Domain App

variable {T κ ν υ α : Type} [Runtime T]

/-- What a request can end in instead of a reply: a route's error, the
framework's refusal of a body (the request's or the reply's), the database's
refusal of a row (which no route catches). -/
inductive ApiError where
  | route (e : RouteError)
  | body (statusCode : Nat)
  | integrityError
  deriving DecidableEq, Repr

abbrev RegistryRouteM (κ ν υ α : Type) := EStateM ApiError (Stores κ ν υ) α

/-- `except ValueError` with 409. -/
def valueErrorAs409 : PyError → RouteError
  | .valueError message => .http 409 message
  | e => .unhandled e

/-- `except KeyError` with 404, then that. -/
def keyOrValueError (T : Type) [Runtime T] : PyError → RouteError
  | .keyError key => toReadError T (.keyError key)
  | e => valueErrorAs409 e

/-- The `try` around a use case. -/
def respond (errors : PyError → RouteError) (m : RegistryM κ ν υ α) : RegistryRouteM κ ν υ α :=
  fun s => match m.run s with
    | .ok a s' => .ok a s'
    | .error (.py e) s' => .error (.route (errors e)) s'
    | .error .integrityError s' => .error .integrityError s'

theorem respond_run (errors : PyError → RouteError) (m : RegistryM κ ν υ α) (s : Stores κ ν υ) :
    (respond errors m).run s = match m.run s with
      | .ok a s' => .ok a s'
      | .error (.py e) s' => .error (.route (errors e)) s'
      | .error .integrityError s' => .error .integrityError s' := rfl

def success : Json := .obj [("success", .bool true)]

/-- What a deletion answers. -/
def deletedOr404 (deleted : Bool) : RegistryRouteM κ ν υ Json :=
  if deleted then return success else throw (.route (.http 404 "Not found"))

/-! ## Customers -/

/-- mirrors src/presentation/api/routes/customer_routes.py:25-30, after its
validators -/
structure CustomerRequest where
  name : String
  cpfCnpj : Option String
  email : String
  phone : String
  isActive : Bool

def optionalStr : Option String → Json
  | some s => .str s
  | none => .null

/-- mirrors src/presentation/api/routes/customer_routes.py:42-50 -/
def customerToResponse (customer : Customer T) : Json :=
  .obj [("customer_id", .str customer.customerId), ("name", .str customer.name),
    ("cpf_cnpj", optionalStr customer.cpfCnpj), ("email", .str customer.email),
    ("phone", .str customer.phone), ("is_active", .bool customer.isActive)]

section Customers
variable (customers : CustomerRepository T κ)

/-- mirrors src/presentation/api/routes/customer_routes.py:53-74 -/
def createCustomer (payload : CustomerRequest) (g : Generated T) : RegistryRouteM κ ν υ Json :=
  customerToResponse <$> respond valueErrorAs409 (CreateCustomerUseCase.execute customers
    ⟨payload.name, payload.cpfCnpj, payload.email, payload.phone, payload.isActive⟩ g)

/-- mirrors src/presentation/api/routes/customer_routes.py:77-84 -/
def listCustomers : RegistryRouteM κ ν υ Json :=
  (fun cs => .arr (cs.map customerToResponse)) <$>
    respond .unhandled (ListCustomersUseCase.execute customers)

/-- mirrors src/presentation/api/routes/customer_routes.py:87-102 -/
def getCustomer (customerId : String) : RegistryRouteM κ ν υ Json :=
  customerToResponse <$>
    respond (toReadError T) (GetCustomerUseCase.execute customers customerId)

/-- mirrors src/presentation/api/routes/customer_routes.py:105-132 -/
def updateCustomer (customerId : String) (payload : CustomerRequest) (now : T) :
    RegistryRouteM κ ν υ Json :=
  (fun _ => success) <$> respond (keyOrValueError T) (UpdateCustomerUseCase.execute customers
    ⟨customerId, payload.name, payload.cpfCnpj, payload.email, payload.phone, payload.isActive⟩
    now)

/-- mirrors src/presentation/api/routes/customer_routes.py:135-147 -/
def deleteCustomer (customerId : String) : RegistryRouteM κ ν υ Json := do
  deletedOr404 (← respond .unhandled (DeleteCustomerUseCase.execute customers customerId))

end Customers

/-! ## Vehicles -/

/-- mirrors src/presentation/api/routes/vehicle_routes.py:25-30, after its
validators -/
structure VehicleRequest where
  customerId : String
  brand : String
  model : String
  year : Int
  plate : String

/-- mirrors src/presentation/api/routes/vehicle_routes.py:40-48 -/
def vehicleToResponse (vehicle : Vehicle T) : Json :=
  .obj [("vehicle_id", .str vehicle.vehicleId), ("customer_id", .str vehicle.customerId),
    ("brand", .str vehicle.brand), ("model", .str vehicle.model), ("year", .int vehicle.year),
    ("plate", .str vehicle.plate)]

section Vehicles
variable (vehicles : VehicleRepository T ν) (customers : CustomerRepository T κ)

/-- mirrors src/presentation/api/routes/vehicle_routes.py:51-79 -/
def createVehicle (payload : VehicleRequest) (g : Generated T) : RegistryRouteM κ ν υ Json :=
  vehicleToResponse <$> respond (keyOrValueError T)
    (CreateVehicleUseCase.execute vehicles customers
      ⟨payload.customerId, payload.brand, payload.model, payload.year, payload.plate⟩ g)

/-- mirrors src/presentation/api/routes/vehicle_routes.py:82-92 -/
def listVehicles (customerId : Option String) : RegistryRouteM κ ν υ Json :=
  (fun vs => .arr (vs.map vehicleToResponse)) <$>
    respond .unhandled (ListVehiclesUseCase.execute vehicles customerId)

/-- mirrors src/presentation/api/routes/vehicle_routes.py:95-110 -/
def getVehicle (vehicleId : String) : RegistryRouteM κ ν υ Json :=
  vehicleToResponse <$> respond (toReadError T) (GetVehicleUseCase.execute vehicles vehicleId)

/-- mirrors src/presentation/api/routes/vehicle_routes.py:113-143 -/
def updateVehicle (vehicleId : String) (payload : VehicleRequest) (now : T) :
    RegistryRouteM κ ν υ Json :=
  (fun _ => success) <$> respond (keyOrValueError T)
    (UpdateVehicleUseCase.execute vehicles customers
      ⟨vehicleId, payload.customerId, payload.brand, payload.model, payload.year, payload.plate⟩
      now)

/-- mirrors src/presentation/api/routes/vehicle_routes.py:146-158 -/
def deleteVehicle (vehicleId : String) : RegistryRouteM κ ν υ Json := do
  deletedOr404 (← respond .unhandled (DeleteVehicleUseCase.execute vehicles vehicleId))

end Vehicles
end ServiceOrderOs.Api
