import Weaving.Advice.AdviceMethod
import Weaving.Advice.Arguments
import Weaving.Advice.BindingPlan
import Weaving.Advice.Course
import Weaving.Advice.Discoverer
import Weaving.Advice.JoinPoint
import Weaving.Advice.Kind
import Weaving.Advice.Marker
import Weaving.Advice.Precedence
import Weaving.Advice.Script
import Weaving.Advice.Sequel
import Weaving.Advice.Specification
import Weaving.Aspect.Advice
import Weaving.Aspect.Catalog
import Weaving.Aspect.Definition
import Weaving.Aspect.IncludePatterns
import Weaving.Aspect.Interception
import Weaving.Aspect.Properties
import Weaving.Aspect.Proxy
import Weaving.Aspect.Registry
import Weaving.EngineError
import Weaving.Expression.ArgPattern
import Weaving.Expression.Captures
import Weaving.Expression.Evaluation
import Weaving.Expression.Execution
import Weaving.Expression.Expr
import Weaving.Expression.ExpressionPointcut
import Weaving.Expression.Identifier
import Weaving.Expression.Lexer
import Weaving.Expression.ParseError
import Weaving.Expression.Parser
import Weaving.Expression.Token
import Weaving.Lifecycle.Container
import Weaving.Lifecycle.ContainerError
import Weaving.Lifecycle.Creation
import Weaving.Lifecycle.Execution
import Weaving.Lifecycle.Instance
import Weaving.Lifecycle.Operation
import Weaving.Lifecycle.World
import Weaving.Matching.Check
import Weaving.Matching.ClassFilter
import Weaving.Matching.MethodMatcher
import Weaving.Matching.NamePattern
import Weaving.Matching.Pointcut
import Weaving.Method
import Weaving.ParameterType
import Weaving.Proofs.AdviceSelection
import Weaving.Proofs.ArgumentTypes
import Weaving.Proofs.BeanCreation
import Weaving.Proofs.BeanHistory
import Weaving.Proofs.BeanStore
import Weaving.Proofs.BindingOrder
import Weaving.Proofs.BodyOrder
import Weaving.Proofs.BoundArguments
import Weaving.Proofs.CallGrammar
import Weaving.Proofs.CallHistory
import Weaving.Proofs.CallSessions
import Weaving.Proofs.CaptureMeaning
import Weaving.Proofs.ChainCache
import Weaving.Proofs.ChainRuns
import Weaving.Proofs.CheckCounts
import Weaving.Proofs.CheckOrder
import Weaving.Proofs.ConfiguredNames
import Weaving.Proofs.DefiniteCapture
import Weaving.Proofs.DocumentBinding
import Weaving.Proofs.DocumentOrder
import Weaving.Proofs.EqualDecisions
import Weaving.Proofs.ExpressionGrammar
import Weaving.Proofs.ExpressionReading
import Weaving.Proofs.ExpressionWriting
import Weaving.Proofs.FilterEquality
import Weaving.Proofs.FirstRegistered
import Weaving.Proofs.HandedAdvice
import Weaving.Proofs.InferredNames
import Weaving.Proofs.LazyInstances
import Weaving.Proofs.LeafPaths
import Weaving.Proofs.LibraryMeaning
import Weaving.Proofs.LinearExtension
import Weaving.Proofs.LoomPlans
import Weaving.Proofs.MatcherAlgebra
import Weaving.Proofs.MatcherEquality
import Weaving.Proofs.MatcherStages
import Weaving.Proofs.NameFilling
import Weaving.Proofs.NameLists
import Weaving.Proofs.NamedReferences
import Weaving.Proofs.ParameterAlignment
import Weaving.Proofs.PatternExpression
import Weaving.Proofs.PlainCalls
import Weaving.Proofs.PlanIndices
import Weaving.Proofs.PointcutFormals
import Weaving.Proofs.PositionalBinding
import Weaving.Proofs.PrecedenceOrder
import Weaving.Proofs.PrintedJoinPoint
import Weaving.Proofs.Proceedings
import Weaving.Proofs.ProxyHistory
import Weaving.Proofs.Reachability
import Weaving.Proofs.ReadingInGroup
import Weaving.Proofs.RegexLanguage
import Weaving.Proofs.RegexManual
import Weaving.Proofs.RegexReading
import Weaving.Proofs.RestingOrder
import Weaving.Proofs.SettingPaths
import Weaving.Proofs.SettledPlans
import Weaving.Proofs.SourcePriority
import Weaving.Proofs.TableLookup
import Weaving.Proofs.TacitConstructors
import Weaving.Proofs.TargetAspects
import Weaving.Proofs.TargetEntries
import Weaving.Proofs.TextPlaces
import Weaving.Proofs.TextSplitting
import Weaving.Proofs.TokenSpelling
import Weaving.Proofs.WholeNames
import Weaving.Proofs.WrittenVariables
import Weaving.Regex.Basic
import Weaving.Regex.Bracket
import Weaving.Regex.Category
import Weaving.Regex.Compile
import Weaving.Regex.Escape
import Weaving.Regex.Flags
import Weaving.Regex.Item
import Weaving.Regex.Library
import Weaving.Regex.Parser
import Weaving.Regex.Place
import Weaving.Regex.Property
import Weaving.Regex.Script
import Weaving.Regex.Search
import Weaving.Settings.Datum
import Weaving.Settings.Environment
import Weaving.Settings.Logging
import Weaving.Settings.Moment
import Weaving.Settings.Source
import Weaving.Table
import Weaving.Text.Blank
import Weaving.Text.CaseFolding
import Weaving.Text.Decimal
import Weaving.Text.Letter
import Weaving.Text.Quoted
import Weaving.Text.Record
import Weaving.Text.Split
import Weaving.Text.Word
import Weaving.Thrown
import Weaving.Toml.Document
import Weaving.Toml.Layout
import Weaving.Toml.Number
import Weaving.Toml.Quoting
import Weaving.Toml.Texts
import Weaving.Toml.Time
import Weaving.Toml.Tree
import Weaving.Toml.Values
import Weaving.TypeInfo
import Weaving.TypeName
import Weaving.Value
