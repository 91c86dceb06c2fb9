import Estuary.Basic
import Estuary.ContextID
import Estuary.Iterator
import Estuary.Planner
import Estuary.Ledger
import Estuary.Provider
import Estuary.Provenance
import Estuary.Reconcile
import Estuary.Resolution
import Estuary.Quote
import Estuary.Shuttle
import Estuary.ShuttleMessage
import Estuary.Bench
