import ControlPlane.Bytes

/-!
# Header fields

Names are tokens and compare without regard to case, so they are kept in lower case. A `HeaderMap`
holds the values of each name together, at the place where the name came first: `insert` replaces
all values of a name, `append` adds one.
-/

namespace ControlPlane

/-- The name of a header field, in lower case. -/
structure HeaderName where
  text : String
  deriving DecidableEq, Repr

/-- The value of a header field; a sensitive one is never shown. -/
structure HeaderValue where
  text : String
  isSensitive : Bool := false
  deriving DecidableEq, Repr

namespace HeaderName

/-- The characters of a token. -/
def isTokenChar (c : Char) : Bool :=
  ('a' ≤ c && c ≤ 'z') || ('A' ≤ c && c ≤ 'Z') || ('0' ≤ c && c ≤ '9') ||
    "!#$%&\x27*+-.^_|~".toList.contains c || c.toNat = 0x60

def maxLength : Nat := 65535

def ofText? (text : String) : Option HeaderName :=
  let chars := text.toList
  if chars.isEmpty || maxLength < chars.length || !chars.all isTokenChar then none
  else some ⟨String.ofList (chars.map Char.toLower)⟩

def accept : HeaderName := ⟨"accept"⟩

def authorization : HeaderName := ⟨"authorization"⟩

def contentType : HeaderName := ⟨"content-type"⟩

end HeaderName

namespace HeaderValue

/-- The characters of a value: no control characters but the tab. -/
def isAllowed (c : Char) : Bool :=
  (0x20 ≤ c.toNat && c.toNat ≠ 0x7F) || c = '\t'

def ofText? (text : String) : Option HeaderValue :=
  if text.toList.all isAllowed then some ⟨text, false⟩ else none

end HeaderValue

/-- Header fields, by the first occurrence of each name. -/
structure HeaderMap where
  entries : List (HeaderName × List HeaderValue) := []
  deriving DecidableEq, Repr, Inhabited

namespace HeaderMap

/-- Replaces the values of a name among entries, or adds an entry at the end. -/
def update (name : HeaderName) (change : List HeaderValue → List HeaderValue) :
    List (HeaderName × List HeaderValue) → List (HeaderName × List HeaderValue)
  | [] => [(name, change [])]
  | (other, values) :: rest =>
    if other = name then (other, change values) :: rest
    else (other, values) :: update name change rest

def values (headers : HeaderMap) (name : HeaderName) : List HeaderValue :=
  ((headers.entries.find? fun entry => entry.1 = name).map Prod.snd).getD []

/-- Makes a value the only one of its name. -/
def insert (headers : HeaderMap) (name : HeaderName) (value : HeaderValue) : HeaderMap :=
  ⟨update name (fun _ => [value]) headers.entries⟩

/-- Adds a value after those of its name. -/
def append (headers : HeaderMap) (name : HeaderName) (value : HeaderValue) : HeaderMap :=
  ⟨update name (· ++ [value]) headers.entries⟩

/-- All fields in order, those of one name together. -/
def toList (headers : HeaderMap) : List (HeaderName × HeaderValue) :=
  headers.entries.flatMap fun entry => entry.2.map fun value => (entry.1, value)

theorem find?_update_self (name : HeaderName) (change : List HeaderValue → List HeaderValue)
    (entries : List (HeaderName × List HeaderValue)) :
    (update name change entries).find? (fun entry => entry.1 = name) =
      some (name, change (((entries.find? fun entry => entry.1 = name).map Prod.snd).getD [])) := by
  induction entries with
  | nil => simp [update]
  | cons entry rest ih =>
    obtain ⟨other, values⟩ := entry
    by_cases h : other = name
    · simp [update, h]
    · simp [update, h, ih]

theorem find?_update_ne {name other : HeaderName} (h : other ≠ name)
    (change : List HeaderValue → List HeaderValue)
    (entries : List (HeaderName × List HeaderValue)) :
    (update name change entries).find? (fun entry => entry.1 = other) =
      entries.find? fun entry => entry.1 = other := by
  induction entries with
  | nil => simp [update, Ne.symm h]
  | cons entry rest ih =>
    obtain ⟨first, values⟩ := entry
    by_cases hname : first = name
    · subst hname
      simp [update, Ne.symm h]
    · by_cases hother : first = other
      · subst hother
        simp [update, h]
      · simp [update, hname, hother, ih]

@[simp]
theorem values_insert_self (headers : HeaderMap) (name : HeaderName) (value : HeaderValue) :
    (headers.insert name value).values name = [value] := by
  simp [insert, values, find?_update_self]

theorem values_insert_ne (headers : HeaderMap) {name other : HeaderName} (h : other ≠ name)
    (value : HeaderValue) : (headers.insert name value).values other = headers.values other := by
  simp [insert, values, find?_update_ne h]

end HeaderMap

end ControlPlane
