import CallProfile.ProfileError

namespace CallProfile

abbrev OpenCalls (α : Type) := SortedMap CallId α

namespace OpenCalls

variable {α : Type}

def start (calls : OpenCalls α) (collector : String) (id : CallId) (note : α) :
    Except ProfileError (OpenCalls α) :=
  if calls.contains id then .error (.collector collector ("call " ++ id.text ++ " is already open"))
  else .ok (calls.insert id note)

def close (calls : OpenCalls α) (id : CallId) : Except ProfileError (α × OpenCalls α) :=
  match calls.get? id with
  | none => .error (.unmatched id "no matching begin")
  | some note => .ok (note, calls.erase id)

end OpenCalls

end CallProfile
