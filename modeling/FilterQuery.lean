import FilterQuery.Json.Text
import FilterQuery.Unicode.LowerCase
import FilterQuery.Decode.Filter
import FilterQuery.Decode.Schema
import FilterQuery.Filter.Json
import FilterQuery.Schema.Json
import FilterQuery.Filter.Raw
import FilterQuery.Expr.Text
import FilterQuery.Expr.Warnings
import FilterQuery.Expr.Json
import FilterQuery.Directory.Text
import FilterQuery.Directory.Json
import FilterQuery.Compile.Message
import FilterQuery.Compile.Document
import FilterQuery.Compile.Directory
import FilterQuery.Client
import FilterQuery.Main
import FilterQuery.Proofs.DocumentSteps
import FilterQuery.Proofs.Membership
import FilterQuery.Proofs.LikeMatching
import FilterQuery.Proofs.Meaning
import FilterQuery.Proofs.MeaningPreserved
import FilterQuery.Proofs.PlainDisjunction
import FilterQuery.Proofs.QueryReader
import FilterQuery.Proofs.ReadBack
import FilterQuery.Proofs.StoredShape
import FilterQuery.Proofs.DirectoryReader
import FilterQuery.Proofs.DirectorySteps
import FilterQuery.Proofs.DirectoryReadBack
import FilterQuery.Proofs.RawTransparency
import FilterQuery.Proofs.Consistency
import FilterQuery.Proofs.FirstFault
import FilterQuery.Proofs.BackendAgreement
import FilterQuery.Proofs.DepthLimit
import FilterQuery.Proofs.BooleanAlgebra
import FilterQuery.Proofs.JsonReader
import FilterQuery.Proofs.Narrowing
import FilterQuery.Proofs.StoredFilter
import FilterQuery.Proofs.PatternRegex
import FilterQuery.Proofs.SubstringPatterns
import FilterQuery.Proofs.ElementAlias
import FilterQuery.Proofs.BorrowedName
import FilterQuery.Proofs.QuerySkeleton
import FilterQuery.Proofs.UnescapedNames
import FilterQuery.Proofs.DoubleOrder
import FilterQuery.Proofs.SingleValued
import FilterQuery.Proofs.RangeCoherence
import FilterQuery.Proofs.IntegerComparisons
import FilterQuery.Proofs.MembershipLog
import FilterQuery.Proofs.VerbatimText
import FilterQuery.Proofs.LexicalScope
import FilterQuery.Proofs.Outline
import FilterQuery.Proofs.ExplainedVerdicts
