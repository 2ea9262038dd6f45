import MailSpool.Failure

/-!
# Descriptor numbers

Callers may number their descriptors from another start than the system does. The difference is
an offset, which is taken from every number before it reaches the system.
-/

namespace MailSpool

/-- The system's number of a descriptor that a caller numbers with an offset. A number from which
the offset cannot be taken within 32 bits is that of no descriptor. -/
def systemDescriptor (offset descriptor : Int32) : Except Failure Int32 :=
  let difference := descriptor.toInt - offset.toInt
  if -2147483648 ≤ difference ∧ difference < 2147483648 then .ok (Int32.ofInt difference)
  else .error (.badDescriptor descriptor)

end MailSpool
