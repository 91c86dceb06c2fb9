import Mathlib.Data.List.Infix

/-!
# The benchmark's choice of provider

`benchest add-file` adds a file to an Estuary node and asks the IPFS check service whether
a provider the node reported serves it. The goroutine that makes the check starts from
the first provider address and walks the whole list, keeping each address that is not on
the loopback host `127.0.0.1`; with no provider at all it reports an error instead.

## Main definitions

* `strContains` — `strings.Contains`
* `checkAddr` — the address the check goroutine hands to `ipfsCheck`

## Main results

* `checkAddr_eq` — the address checked is the last provider off the loopback host, or the
  first provider when every one is on it
-/

namespace Estuary

/-- `strings.Contains(s, substr)`: `substr` starts at some position of `s`. -/
def strContains (s substr : String) : Bool :=
  s.toList.tails.any (substr.toList.isPrefixOf ·)

/-- The address the check goroutine of `benchAddFileCmd` passes to `ipfsCheck`, or the
`CheckRequestError` it sends when the add response named no provider. -/
def checkAddr (providers : List String) : Except String String :=
  match providers with
  | [] => .error "no addresses back from add response"
  | first :: _ =>
    .ok (providers.foldl (fun addr a => if !strContains a "127.0.0.1" then a else addr) first)

/-- A loop that overwrites its variable with every element the test accepts ends with the
last such element, or with where it started. -/
theorem foldl_overwrite (q : String → Bool) (addr : String) (l : List String) :
    l.foldl (fun addr a => if q a then a else addr) addr = ((l.filter q).getLast?).getD addr := by
  induction l using List.reverseRecOn with
  | nil => rfl
  | append_singleton l a ih =>
    rw [List.foldl_append, ih, List.filter_append]
    cases h : q a <;> simp [h]

/-- The address checked is the last provider off the loopback host, or the first provider
when every one is on it. -/
theorem checkAddr_eq (first : String) (rest : List String) :
    checkAddr (first :: rest) =
      .ok ((((first :: rest).filter fun a => !strContains a "127.0.0.1").getLast?).getD first) :=
  congrArg Except.ok (foldl_overwrite _ first (first :: rest))

example : checkAddr ["/ip4/127.0.0.1/tcp/6744", "/ip4/147.75.1.2/tcp/6744",
    "/ip4/127.0.0.1/udp/6746"] = .ok "/ip4/147.75.1.2/tcp/6744" := rfl

end Estuary
