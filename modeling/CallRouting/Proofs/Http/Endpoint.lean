import CallRouting.Http.Request
import Mathlib.Data.List.Basic

/-!
# Requests at endpoints

What `Endpoint.apply` does to a request is said field by field: `At` is a request that has become
one for an endpoint as a whole. Header fields are compared by the values of each name, because the
order among fields of different names does not count.
-/

namespace CallRouting.Http

namespace Headers

theorem values_eq_nil_of_not_contains {h : Headers} {name : String}
    (hname : h.contains name = false) : h.values name = [] := by
  rw [values, List.map_eq_nil_iff, List.filter_eq_nil_iff]
  intro f hf hfst
  rw [contains, List.any_eq_false] at hname
  exact hname f hf hfst

/-- The list that overrides decides about its own names, and about no other. -/
theorem values_override (h other : Headers) (name : String) :
    (h.override other).values name
      = if other.contains name then other.values name else h.values name := by
  rw [override, values, List.filter_append, List.map_append, List.filter_filter]
  by_cases hname : other.contains name = true
  · -- no field of this name is left of `h`
    have hnone : h.fields.filter (fun f ↦ decide (f.1 = name) && !other.contains f.1) = [] := by
      rw [List.filter_eq_nil_iff]
      rintro f - hf
      rw [Bool.and_eq_true, decide_eq_true_eq] at hf
      rw [hf.1, hname] at hf
      exact Bool.false_ne_true hf.2
    rw [if_pos hname, hnone, List.map_nil, List.nil_append, values]
  · have hall : h.fields.filter (fun f ↦ decide (f.1 = name) && !other.contains f.1)
        = h.fields.filter fun f ↦ decide (f.1 = name) := by
      refine List.filter_congr fun f _ ↦ ?_
      by_cases hf : f.1 = name
      · rw [hf, Bool.eq_false_iff.mpr hname, Bool.not_false, Bool.and_true]
      · rw [decide_eq_false hf, Bool.false_and]
    have hother := values_eq_nil_of_not_contains (Bool.eq_false_iff.mpr hname)
    rw [values] at hother
    rw [if_neg hname, hall, hother, List.append_nil, values]

end Headers

/-- A request that was one before and now is one for an endpoint: nothing is missing of the
endpoint, and nothing else is changed. -/
structure Request.At (e : Endpoint) (before after : Request) : Prop where
  /-- The method is what it was. -/
  method : after.method = before.method
  /-- The URL is that of the endpoint. -/
  url : after.url = e.url
  /-- The values of names that the endpoint has are those of the endpoint. -/
  carried : ∀ name, e.headers.contains name = true →
    after.headers.values name = e.headers.values name
  /-- The values of other names are what they were. -/
  kept : ∀ name, e.headers.contains name = false →
    after.headers.values name = before.headers.values name

/-- An endpoint is applied as a whole. -/
theorem Endpoint.at_apply (e : Endpoint) (r : Request) : Request.At e r (e.apply r) where
  method := rfl
  url := rfl
  carried name h := by rw [apply, Headers.values_override, if_pos h]
  kept name h := by rw [apply, Headers.values_override, h, if_neg Bool.false_ne_true]

end CallRouting.Http
