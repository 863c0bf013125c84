import SqlMapper.Entity.Basic
import SqlMapper.Entity.Schema
import SqlMapper.Gateway.Basic
import SqlMapper.Query.Join
import SqlMapper.Session.Connection
import SqlMapper.Store.Basic
import SqlMapper.Proofs.Outcome
import SqlMapper.Proofs.Sql.Carries
import SqlMapper.Proofs.Sql.Number
import SqlMapper.Proofs.Supply.Bound
import SqlMapper.Proofs.Supply.Inserted
import SqlMapper.Proofs.Supply.Predicate
import SqlMapper.Proofs.Query.Bound
import SqlMapper.Proofs.Query.Source
import SqlMapper.Proofs.Entity.Consistent
import SqlMapper.Proofs.Entity.InForce
import SqlMapper.Proofs.Query.Names
import SqlMapper.Proofs.Query.Label
import SqlMapper.Proofs.Gateway.Bound
import SqlMapper.Proofs.Gateway.Dialects
import SqlMapper.Proofs.Logic.Token
import SqlMapper.Proofs.Logic.Grammar
import SqlMapper.Proofs.Logic.Reading
import SqlMapper.Proofs.Logic.Spelling
import SqlMapper.Proofs.Logic.Condition
import SqlMapper.Proofs.Logic.Negation
import SqlMapper.Proofs.Logic.Blank
import SqlMapper.Proofs.Gateway.ReadBack
import SqlMapper.Proofs.Session.Exchange
import SqlMapper.Proofs.Session.Transaction
import SqlMapper.Proofs.Gateway.Operation
import SqlMapper.Proofs.Gateway.Routine
import SqlMapper.Proofs.Gateway.Rejection
import SqlMapper.Proofs.Gateway.Insertion
import SqlMapper.Proofs.Calendar.Digits
import SqlMapper.Proofs.Calendar.RoundTrip
import SqlMapper.Proofs.Entity.RoundTrip
import SqlMapper.Proofs.Entity.Temporal
import SqlMapper.Proofs.Entity.Integer
import SqlMapper.Proofs.Entity.SetNames
import SqlMapper.Proofs.Gateway.Addressing
import SqlMapper.Proofs.Gateway.Upsert
import SqlMapper.Proofs.Gateway.Assignments
import SqlMapper.Proofs.Gateway.SetFields
import SqlMapper.Proofs.Query.Filter
import SqlMapper.Proofs.Query.Items
import SqlMapper.Proofs.Query.ClauseOrder
import SqlMapper.Proofs.Query.Adjacent
import SqlMapper.Proofs.Query.Reread
import SqlMapper.Proofs.Gateway.Example
import SqlMapper.Proofs.Store.Surviving
