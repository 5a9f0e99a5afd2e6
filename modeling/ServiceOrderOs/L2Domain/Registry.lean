/-!
# Customers, vehicles and admin users

The records the three registries hold. Opening a service order looks a
customer and a vehicle up.
-/
namespace ServiceOrderOs.Domain

/-- mirrors src/domain/customer.py:8-17 -/
structure Customer (T : Type) where
  name : String
  email : String
  phone : String
  cpfCnpj : Option String
  isActive : Bool
  customerId : String
  createdAt : T
  updatedAt : T

/-- mirrors src/domain/vehicle.py:8-17 -/
structure Vehicle (T : Type) where
  customerId : String
  brand : String
  model : String
  year : Int
  plate : String
  vehicleId : String
  createdAt : T
  updatedAt : T

/-- mirrors src/domain/admin_user.py:8-13 -/
structure AdminUser (T : Type) where
  email : String
  passwordHash : String
  userId : String
  createdAt : T

end ServiceOrderOs.Domain
