import CallRouting.Proofs.Http.Endpoint
import Mathlib.Data.List.Induction

/-!
# Endpoints one after the other

A request that is pointed at several endpoints in turn keeps its method, has the URL of the last of
them, and has for each name the values of the last one that carries the name. What carries the proof
is that an endpoint decides about its own names and about no other (`Headers.values_override`), so
that one more endpoint only asks whether it carries the name.

Names are compared without regard to case. The fields of a request and of an endpoint have their
names in lower case, because no name is read in any other way (`Headers.Lower.append`), so that a
comparison without regard to case is one of the names as they are kept.

An endpoint may also be applied one name after the other: the fields of the name that the request
has go, and then those of the endpoint are appended one by one. That leaves the same values for each
name, whatever the order in which the names come (`Headers.values_replaceEach`).
-/

namespace CallRouting.Http

/-! ## Names without regard to case -/

theorem lowerLetter_lowerLetter (c : Char) : lowerLetter (lowerLetter c) = lowerLetter c := by
  by_cases h : 'A' ≤ c ∧ c ≤ 'Z'
  · have hbounds : 65 ≤ c.toNat ∧ c.toNat ≤ 90 := h
    have hvalid : (c.toNat + 32).isValidChar := Or.inl (by omega)
    have hlower : (Char.ofNat (c.toNat + 32)).toNat = c.toNat + 32 := by
      rw [Char.ofNat, dif_pos hvalid]
      rfl
    have hnot : ¬('A' ≤ Char.ofNat (c.toNat + 32) ∧ Char.ofNat (c.toNat + 32) ≤ 'Z') := by
      rintro ⟨-, hle⟩
      have : (Char.ofNat (c.toNat + 32)).toNat ≤ 90 := hle
      omega
    rw [lowerLetter, lowerLetter, if_pos h, if_neg hnot]
  · rw [lowerLetter, lowerLetter, if_neg h, if_neg h]

/-- A spelling of a name in lower case. -/
def lowerName (spelling : String) : String := String.ofList (spelling.toList.map lowerLetter)

theorem lowerName_lowerName (spelling : String) :
    lowerName (lowerName spelling) = lowerName spelling := by
  rw [lowerName, lowerName, String.toList_ofList, List.map_map]
  exact congrArg String.ofList (List.map_congr_left fun c _ ↦ lowerLetter_lowerLetter c)

theorem eq_lowerName_of_headerName? {spelling name : String}
    (h : headerName? spelling = .ok name) : name = lowerName spelling := by
  rw [headerName?] at h
  split_ifs at h
  exact (Except.ok.inj h).symm

namespace Headers

/-- Whether all names are in lower case. -/
def Lower (h : Headers) : Prop := ∀ f ∈ h.fields, lowerName f.1 = f.1

/-- The values of a name in any spelling, oldest first. -/
def valuesOf (h : Headers) (spelling : String) : List String :=
  (h.fields.filter fun f ↦ lowerName f.1 = lowerName spelling).map Prod.snd

/-- Whether there is a field of a name in any spelling. -/
def carries (h : Headers) (spelling : String) : Bool :=
  h.fields.any fun f ↦ lowerName f.1 = lowerName spelling

theorem lower_empty : empty.Lower := fun _ hf ↦ absurd hf List.not_mem_nil

theorem Lower.append {h : Headers} (hlower : h.Lower) {spelling name : String}
    (hname : headerName? spelling = .ok name) (value : String) : (h.append name value).Lower := by
  intro f hf
  rcases List.mem_append.mp hf with hold | hnew
  · exact hlower f hold
  · obtain rfl := List.mem_singleton.mp hnew
    rw [eq_lowerName_of_headerName? hname, lowerName_lowerName]

theorem Lower.override {h other : Headers} (hlower : h.Lower) (hother : other.Lower) :
    (h.override other).Lower := by
  intro f hf
  rcases List.mem_append.mp hf with hkept | hcarried
  · exact hlower f (List.mem_of_mem_filter hkept)
  · exact hother f hcarried

theorem Lower.valuesOf_eq {h : Headers} (hlower : h.Lower) (spelling : String) :
    h.valuesOf spelling = h.values (lowerName spelling) := by
  rw [valuesOf, values]
  refine congrArg (List.map Prod.snd) (List.filter_congr fun f hf ↦ ?_)
  rw [hlower f hf]

theorem Lower.carries_eq {h : Headers} (hlower : h.Lower) (spelling : String) :
    h.carries spelling = h.contains (lowerName spelling) := by
  rw [carries, contains, Bool.eq_iff_iff, List.any_eq_true, List.any_eq_true]
  refine exists_congr fun f ↦ and_congr_right fun hf ↦ ?_
  rw [hlower f hf]

/-! ## One name after the other -/

/-- The fields with those of one name replaced: the old ones go, and then those of another list are
appended one by one. -/
def replaceName (other h : Headers) (name : String) : Headers :=
  (other.values name).foldl (fun h value ↦ h.append name value) (h.erase name)

/-- The fields with those of some names replaced, one name after the other. -/
def replaceEach (other h : Headers) (names : List String) : Headers :=
  names.foldl other.replaceName h

theorem values_append (h : Headers) (name value other : String) :
    (h.append name value).values other
      = if name = other then h.values other ++ [value] else h.values other := by
  rw [values, append, List.filter_append, List.map_append, ← values]
  by_cases hname : name = other
  · rw [if_pos hname, List.filter_cons_of_pos (by simpa using hname)]
    rfl
  · rw [if_neg hname, List.filter_cons_of_neg (by simpa using hname)]
    exact List.append_nil _

theorem values_erase (h : Headers) (name other : String) :
    (h.erase name).values other = if name = other then [] else h.values other := by
  rw [values, erase, List.filter_filter]
  by_cases hname : name = other
  · rw [if_pos hname, List.map_eq_nil_iff, List.filter_eq_nil_iff]
    intro f _ hf
    simp only [Bool.and_eq_true, decide_eq_true_eq] at hf
    exact hf.2 (hf.1.trans hname.symm)
  · rw [if_neg hname, values]
    refine congrArg (List.map Prod.snd) (List.filter_congr fun f _ ↦ ?_)
    by_cases hf : f.1 = other
    · rw [decide_eq_true hf, Bool.true_and, decide_eq_true_eq]
      exact fun h ↦ hname (h.symm.trans hf)
    · rw [decide_eq_false hf, Bool.false_and]

theorem values_foldl_append (values : List String) (h : Headers) (name other : String) :
    (values.foldl (fun h value ↦ h.append name value) h).values other
      = if name = other then h.values other ++ values else h.values other := by
  induction values generalizing h with
  | nil => simp
  | cons value rest ih =>
    rw [List.foldl_cons, ih, values_append]
    by_cases hname : name = other
    · rw [if_pos hname, if_pos hname, if_pos hname, List.append_assoc, List.singleton_append]
    · rw [if_neg hname, if_neg hname, if_neg hname]

theorem values_replaceName (other h : Headers) (name sought : String) :
    (other.replaceName h name).values sought
      = if name = sought then other.values sought else h.values sought := by
  rw [replaceName, values_foldl_append, values_erase]
  by_cases hname : name = sought
  · rw [if_pos hname, if_pos hname, if_pos hname, List.nil_append, hname]
  · rw [if_neg hname, if_neg hname, if_neg hname]

/-- **The order of the names does not matter**, nor does it that a name comes twice: those that come
at all have the new values, and the others the old ones. -/
theorem values_replaceEach (other h : Headers) (names : List String) (sought : String) :
    (other.replaceEach h names).values sought
      = if sought ∈ names then other.values sought else h.values sought := by
  induction names generalizing h with
  | nil => rfl
  | cons name rest ih =>
    rw [replaceEach, List.foldl_cons, ← replaceEach, ih, values_replaceName]
    by_cases hrest : sought ∈ rest
    · rw [if_pos hrest, if_pos (List.mem_cons_of_mem name hrest)]
    · rw [if_neg hrest]
      by_cases hname : name = sought
      · rw [if_pos hname, if_pos (List.mem_cons.mpr (Or.inl hname.symm))]
      · rw [if_neg hname, if_neg fun hmem ↦ ?_]
        exact (List.mem_cons.mp hmem).elim (fun heq ↦ hname heq.symm) hrest

theorem mem_names_iff {h : Headers} {name : String} :
    name ∈ h.names ↔ h.contains name = true := by
  simp [names, contains, List.mem_eraseDups]

theorem override_override (h other : Headers) :
    (h.override other).override other = h.override other := by
  rw [override, override, List.filter_append, List.filter_filter]
  -- Its own fields, which the first time put there, are what the second time takes away.
  have hgone : other.fields.filter (fun f ↦ !other.contains f.1) = [] := by
    rw [List.filter_eq_nil_iff]
    intro f hf hnot
    have hcontains : other.contains f.1 = true :=
      List.any_eq_true.mpr ⟨f, hf, decide_eq_true rfl⟩
    rw [hcontains] at hnot
    cases hnot
  simp only [Bool.and_self, hgone, List.append_nil]

end Headers

/-! ## Requests and the endpoints applied to them -/

/-- Requests that differ at most in the order among fields of different names. -/
structure Request.Alike (r s : Request) : Prop where
  /-- They have one method. -/
  method : r.method = s.method
  /-- They have one URL. -/
  url : r.url = s.url
  /-- They have the same values for each name. -/
  values : ∀ name, r.headers.values name = s.headers.values name

namespace Endpoint

/-- Points a request at endpoints, one after the other. -/
def applyAll (es : List Endpoint) (r : Request) : Request := es.foldl (fun r e ↦ e.apply r) r

/-- Points a request at an endpoint one name after the other. -/
def applyEach (e : Endpoint) (r : Request) : Request :=
  { r with url := e.url, headers := e.headers.replaceEach r.headers e.headers.names }

/-- The last of the endpoints that carry a name, in any spelling. -/
def lastCarrier (es : List Endpoint) (spelling : String) : Option Endpoint :=
  (es.filter fun e ↦ e.headers.carries spelling).getLast?

theorem applyAll_concat (es : List Endpoint) (e : Endpoint) (r : Request) :
    applyAll (es ++ [e]) r = e.apply (applyAll es r) := by
  rw [applyAll, List.foldl_append, List.foldl_cons, List.foldl_nil, applyAll]

theorem apply_apply (e : Endpoint) (r : Request) : e.apply (e.apply r) = e.apply r := by
  rw [apply, apply, Headers.override_override]

theorem method_applyAll (es : List Endpoint) (r : Request) :
    (applyAll es r).method = r.method := by
  induction es using List.reverseRecOn with
  | nil => rfl
  | append_singleton es e ih => rw [applyAll_concat, (e.at_apply _).method, ih]

theorem url_applyAll (es : List Endpoint) (r : Request) :
    (applyAll es r).url = (es.getLast?.map Endpoint.url).getD r.url := by
  cases es using List.reverseRecOn with
  | nil => rfl
  | append_singleton es e =>
    rw [applyAll_concat, (e.at_apply _).url, List.getLast?_concat, Option.map_some,
      Option.getD_some]

theorem lower_applyAll {es : List Endpoint} {r : Request} (hr : r.headers.Lower)
    (hes : ∀ e ∈ es, e.headers.Lower) : (applyAll es r).headers.Lower := by
  induction es using List.reverseRecOn with
  | nil => exact hr
  | append_singleton es e ih =>
    obtain ⟨hrest, he⟩ := List.forall_mem_append.mp hes
    rw [applyAll_concat]
    exact (ih hrest).override (he e List.mem_cons_self)

/-- The last endpoint with a name decides about the name. -/
theorem values_applyAll (es : List Endpoint) (r : Request) (name : String) :
    (applyAll es r).headers.values name
      = ((es.filter fun e ↦ e.headers.contains name).getLast?.elim r.headers
          Endpoint.headers).values name := by
  induction es using List.reverseRecOn with
  | nil => rfl
  | append_singleton es e ih =>
    rw [applyAll_concat, apply, Headers.values_override, List.filter_append]
    by_cases he : e.headers.contains name = true
    · have hself : [e].filter (fun e ↦ e.headers.contains name) = [e] :=
        List.filter_cons_of_pos (p := fun e : Endpoint ↦ e.headers.contains name) he
      rw [if_pos he, hself, List.getLast?_concat, Option.elim_some]
    · have hnone : [e].filter (fun e ↦ e.headers.contains name) = [] :=
        List.filter_cons_of_neg (p := fun e : Endpoint ↦ e.headers.contains name) he
      rw [if_neg he, hnone, List.append_nil, ih]

theorem valuesOf_applyAll {es : List Endpoint} {r : Request} (hr : r.headers.Lower)
    (hes : ∀ e ∈ es, e.headers.Lower) (spelling : String) :
    (applyAll es r).headers.valuesOf spelling
      = ((lastCarrier es spelling).elim r.headers Endpoint.headers).valuesOf spelling := by
  have hcarriers : (es.filter fun e ↦ e.headers.contains (lowerName spelling))
      = es.filter fun e ↦ e.headers.carries spelling :=
    List.filter_congr fun e he ↦ ((hes e he).carries_eq spelling).symm
  rw [(lower_applyAll hr hes).valuesOf_eq, values_applyAll, hcarriers, ← lastCarrier]
  cases hlast : lastCarrier es spelling with
  | none => rw [Option.elim_none, hr.valuesOf_eq]
  | some e =>
    have he : e ∈ es := List.mem_of_mem_filter (List.mem_of_getLast? hlast)
    rw [Option.elim_some, (hes e he).valuesOf_eq]

/-! ## One name after the other, for one endpoint and for several -/

/-- It makes no difference to how a request ends up that names come one after the other. -/
theorem alike_applyEach {r s : Request} (h : r.Alike s) (e : Endpoint) :
    (e.applyEach r).Alike (e.apply s) where
  method := h.method
  url := rfl
  values name := by
    rw [applyEach, apply, Headers.values_replaceEach, Headers.values_override, h.values]
    simp only [Headers.mem_names_iff]

theorem alike_foldl_applyEach (es : List Endpoint) (r : Request) :
    (es.foldl (fun r e ↦ e.applyEach r) r).Alike (applyAll es r) := by
  induction es using List.reverseRecOn with
  | nil => exact ⟨rfl, rfl, fun _ ↦ rfl⟩
  | append_singleton es e ih =>
    rw [applyAll_concat, List.foldl_append, List.foldl_cons, List.foldl_nil]
    exact alike_applyEach ih e

/-- **Endpoints one after the other.** Take a request and endpoints whose names are in lower case,
as all names that are read are. After the endpoints were applied one after the other, the method is
what it was and the URL is that of the last endpoint, or what it was if there is none. The values of
a name, in any spelling, are those of the last endpoint that carries the name, in their order and as
often as they occur there, or what they were if none carries it. An endpoint that is applied a
second time changes nothing. Nor does it matter that an endpoint is applied one name after the
other: each name has the same values in the end. -/
theorem last_endpoint_decides {es : List Endpoint} {r : Request} (hr : r.headers.Lower)
    (hes : ∀ e ∈ es, e.headers.Lower) :
    let after := applyAll es r
    after.method = r.method ∧
    after.url = (es.getLast?.map Endpoint.url).getD r.url ∧
    after.headers.Lower ∧
    (∀ spelling, after.headers.valuesOf spelling
      = ((lastCarrier es spelling).elim r.headers Endpoint.headers).valuesOf spelling) ∧
    (∀ e, applyAll (es ++ [e, e]) r = applyAll (es ++ [e]) r) ∧
    (es.foldl (fun r e ↦ e.applyEach r) r).Alike after := by
  intro after
  refine ⟨method_applyAll es r, url_applyAll es r, lower_applyAll hr hes,
    valuesOf_applyAll hr hes, fun e ↦ ?_, alike_foldl_applyEach es r⟩
  have hsplit : es ++ [e, e] = es ++ [e] ++ [e] := by rw [List.append_assoc]; rfl
  rw [hsplit, applyAll_concat, applyAll_concat, apply_apply]

private def tenantUrl (tenant : String) : Url :=
  ⟨"https", none, .segments [tenant.toList], none, none⟩

private def tenantRequest : Request :=
  ⟨"GET", tenantUrl "old",
    ((Headers.empty.append "x-tenant" "old-1").append "accept" "text/plain").append "x-tenant"
      "old-2"⟩

private def tenantEndpoint : Endpoint :=
  ⟨tenantUrl "new", (Headers.empty.append "x-tenant" "new-2").append "x-tenant" "new-1"⟩

private def zoneEndpoint : Endpoint := ⟨tenantUrl "zone", Headers.empty.append "x-zone" "south"⟩

/-- Of two endpoints the first decides about the name that the second does not carry. -/
theorem tenant_of_first_endpoint :
    tenantRequest.headers.Lower ∧
    (∀ e ∈ [tenantEndpoint, zoneEndpoint], e.headers.Lower) ∧
    (applyAll [tenantEndpoint, zoneEndpoint] tenantRequest).url = tenantUrl "zone" ∧
    (applyAll [tenantEndpoint, zoneEndpoint] tenantRequest).headers.valuesOf "X-Tenant"
      = ["new-2", "new-1"] ∧
    (applyAll [tenantEndpoint, zoneEndpoint] tenantRequest).headers.valuesOf "Accept"
      = ["text/plain"] := by
  have htenant : headerName? "X-Tenant" = .ok "x-tenant" := rfl
  have hrequest : tenantRequest.headers.Lower :=
    ((Headers.lower_empty.append htenant "old-1").append
      (show headerName? "Accept" = .ok "accept" from rfl) "text/plain").append htenant "old-2"
  have hendpoints : ∀ e ∈ [tenantEndpoint, zoneEndpoint], e.headers.Lower :=
    List.forall_mem_cons.mpr
      ⟨(Headers.lower_empty.append htenant "new-2").append htenant "new-1",
        List.forall_mem_singleton.mpr
          (Headers.lower_empty.append (show headerName? "X-Zone" = .ok "x-zone" from rfl) "south")⟩
  obtain ⟨-, hurl, -, hvalues, -⟩ := last_endpoint_decides hrequest hendpoints
  exact ⟨hrequest, hendpoints, hurl, (hvalues "X-Tenant").trans rfl, (hvalues "Accept").trans rfl⟩

end Endpoint

end CallRouting.Http
