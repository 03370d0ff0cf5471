import ControlPlane.Journal

/-!
# What logs show of headers

A sensitive value stands in a log as the same text whatever it says. A request is logged as the one
that has this text for each of its sensitive values, so requests that differ only in what sensitive
values say have the same lines.
-/

namespace ControlPlane

/-- A value with what a log shows in its place. -/
def HeaderValue.shown (value : HeaderValue) : HeaderValue :=
  if value.isSensitive then ⟨Journal.redacted, true⟩ else value

namespace HeaderMap

variable {headers : HeaderMap} {name : HeaderName}

def shown (headers : HeaderMap) : HeaderMap :=
  ⟨headers.entries.map fun entry => (entry.1, entry.2.map HeaderValue.shown)⟩

theorem toList_shown (headers : HeaderMap) :
    headers.shown.toList = headers.toList.map fun field => (field.1, field.2.shown) := by
  simp only [shown, toList, List.flatMap_def, List.map_map, List.map_flatten, Function.comp_def]

theorem shown_insert (headers : HeaderMap) (name : HeaderName) (value : HeaderValue) :
    (headers.insert name value).shown = headers.shown.insert name value.shown := by
  obtain ⟨entries⟩ := headers
  simp only [insert, shown, mk.injEq]
  induction entries with
  | nil => rfl
  | cons entry rest ih =>
      obtain ⟨first, values⟩ := entry
      by_cases hfirst : first = name
      · simp [update, hfirst]
      · simp [update, hfirst, ih]

/-! ### Names that have values -/

def Has (headers : HeaderMap) (name : HeaderName) : Prop :=
  headers.values name ≠ []

theorem has_insert_self (headers : HeaderMap) (name : HeaderName) (value : HeaderValue) :
    (headers.insert name value).Has name := by
  rw [Has, values_insert_self]
  exact List.cons_ne_nil _ _

/-- A value that is set takes no name away. -/
theorem Has.insert (h : headers.Has name) (set : HeaderName) (value : HeaderValue) :
    (headers.insert set value).Has name := by
  by_cases hname : name = set
  · rw [hname]
    exact has_insert_self headers set value
  · rw [Has, values_insert_ne headers hname]
    exact h

end HeaderMap

def Request.shown (request : Request) : Request :=
  { request with headers := request.headers.shown }

namespace Request

variable {request twin : Request}

theorem method_eq_of_shown (h : request.shown = twin.shown) : request.method = twin.method := by
  have hmethod := congrArg method h
  exact hmethod

theorem url_eq_of_shown (h : request.shown = twin.shown) : request.url = twin.url := by
  have hurl := congrArg url h
  exact hurl

theorem body_eq_of_shown (h : request.shown = twin.shown) : request.body = twin.body := by
  have hbody := congrArg body h
  exact hbody

end Request

namespace Journal

theorem shownValue_shown (name : HeaderName) (value : HeaderValue) :
    shownValue name value.shown = shownValue name value := by
  cases hsensitive : value.isSensitive <;> simp [shownValue, HeaderValue.shown, hsensitive]

theorem headersText_shown (headers : HeaderMap) :
    headersText headers.shown = headersText headers := by
  simp only [headersText, Text.debugList, HeaderMap.toList_shown, List.map_map, Function.comp_def,
    shownValue_shown]

theorem requestLine_shown (detail : Detail) (request : Request) :
    requestLine detail request.shown = requestLine detail request := by
  have hheaders :
      headersPart detail request.shown.headers = headersPart detail request.headers := by
    rw [headersPart, Request.shown, headersText_shown, headersPart]
  rw [requestLine, hheaders]
  rfl

/-- **Logs keep secrets.** Requests that differ only in what sensitive values say have one line. -/
theorem requestLine_eq_of_shown {request other : Request} (h : request.shown = other.shown)
    (detail : Detail) : requestLine detail request = requestLine detail other := by
  rw [← requestLine_shown, h, requestLine_shown]

end Journal

end ControlPlane
