/-!
Visibility conditions in the embedded program.
-/

namespace ReportCompiler

namespace Program

def conditions : List String :=
  ["  // Visibility conditions",
    "",
    "  function tokenize(condition) \x7b",
    "    var tokens = [];",
    "    var position = 0;",
    "    while (position < condition.length) \x7b",
    "      var match = CONDITION_TOKEN.exec(condition.slice(position));",
    "      if (!match) throw new SyntaxError('Unexpected character at ' + position);",
    "      if (match[2]) tokens.push(\x7b kind: 'op', value: match[2] \x7d);",
    "      else if (match[3]) tokens.push(\x7b kind: 'string', value: match[3] \x7d);",
    "      else if (match[4]) tokens.push(\x7b kind: 'number', value: match[4] \x7d);",
    "      else if (match[5]) tokens.push(\x7b kind: 'path', value: match[5] \x7d);",
    "      position += match[0].length;",
    "    \x7d",
    "    return tokens;",
    "  \x7d",
    "",
    "  function parseCondition(condition) \x7b",
    "    var tokens = tokenize(condition);",
    "    var index = 0;",
    "",
    "    function peek() \x7b return index < tokens.length ? tokens[index] : null; \x7d",
    "",
    "    function accept(value) \x7b",
    "      var token = peek();",
    "      if (token && token.kind === 'op' && token.value === value) \x7b",
    "        index += 1;",
    "        return true;",
    "      \x7d",
    "      return false;",
    "    \x7d",
    "",
    "    function parseOr() \x7b",
    "      var operands = [parseAnd()];",
    "      while (accept('||')) operands.push(parseAnd());",
    "      return operands.length === 1 ? operands[0] : \x7b node: 'or', operands: operands \x7d;",
    "    \x7d",
    "",
    "    function parseAnd() \x7b",
    "      var operands = [parseUnary()];",
    "      while (accept('&&')) operands.push(parseUnary());",
    "      return operands.length === 1 ? operands[0] : \x7b node: 'and', operands: operands \x7d;",
    "    \x7d",
    "",
    "    function parseUnary() \x7b",
    "      if (accept('!')) return \x7b node: 'not', operand: parseUnary() \x7d;",
    "      return parseCompare();",
    "    \x7d",
    "",
    "    function parseCompare() \x7b",
    "      var left = parseOperand();",
    "      var token = peek();",
    "      if (token && token.kind === 'op' && COMPARISON_OPERATORS.indexOf(token.value) !== -1) \x7b",
    "        index += 1;",
    "        return \x7b node: 'cmp', operator: token.value, left: left, right: parseOperand() \x7d;",
    "      \x7d",
    "      return left;",
    "    \x7d",
    "",
    "    function parseOperand() \x7b",
    "      var token = peek();",
    "      if (!token) throw new SyntaxError('Unexpected end of condition');",
    "      index += 1;",
    "      if (token.kind === 'op' && token.value === '(') \x7b",
    "        var inner = parseOr();",
    "        if (!accept(')')) throw new SyntaxError('Missing closing parenthesis');",
    "        return inner;",
    "      \x7d",
    "      if (token.kind === 'string') \x7b",
    "        return \x7b node: 'lit', value: token.value.slice(1, -1).replace(/\\\\(.)/g, '$1') \x7d;",
    "      \x7d",
    "      if (token.kind === 'number') return \x7b node: 'lit', value: parseFloat(token.value) \x7d;",
    "      if (token.kind === 'path') \x7b",
    "        if (Object.prototype.hasOwnProperty.call(KEYWORDS, token.value)) \x7b",
    "          return \x7b node: 'lit', value: KEYWORDS[token.value] \x7d;",
    "        \x7d",
    "        return \x7b node: 'path', path: token.value.replace(/\\?\\./g, '.') \x7d;",
    "      \x7d",
    "      throw new SyntaxError('Unexpected token ' + token.value);",
    "    \x7d",
    "",
    "    var tree = parseOr();",
    "    if (peek()) throw new SyntaxError('Unexpected token ' + peek().value);",
    "    return tree;",
    "  \x7d",
    "",
    "  function isTruthy(value) \x7b",
    "    if (value == null || value === false) return false;",
    "    if (typeof value === 'number') return value !== 0 && !isNaN(value);",
    "    if (typeof value === 'string') return value !== '';",
    "    return true;",
    "  \x7d",
    "",
    "  function lookup(path, data) \x7b",
    "    if (path === 'data') return data;",
    "    if (/\\.length$/.test(path)) \x7b",
    "      var base = lookup(path.slice(0, -'.length'.length), data);",
    "      if (typeof base === 'string' || Array.isArray(base)) return base.length;",
    "    \x7d",
    "    return resolvePath(path, data);",
    "  \x7d",
    "",
    "  function looseOperands(left, right) \x7b",
    "    function asNumber(text) \x7b",
    "      var number = text.trim() === '' ? NaN : Number(text);",
    "      return isNaN(number) ? text : number;",
    "    \x7d",
    "    if (typeof left === 'number' && typeof right === 'string') return [left, asNumber(right)];",
    "    if (typeof left === 'string' && typeof right === 'number') return [asNumber(left), right];",
    "    return [left, right];",
    "  \x7d",
    "",
    "  function strictEqual(left, right) \x7b",
    "    if (left !== null && typeof left === 'object' && right !== null && typeof right === 'object') \x7b",
    "      return JSON.stringify(left) === JSON.stringify(right);",
    "    \x7d",
    "    return left === right;",
    "  \x7d",
    "",
    "  function compare(operator, left, right) \x7b",
    "    if (operator === '===') return strictEqual(left, right);",
    "    if (operator === '!==') return !strictEqual(left, right);",
    "    var operands = looseOperands(left, right);",
    "    if (operator === '==') return strictEqual(operands[0], operands[1]);",
    "    if (operator === '!=') return !strictEqual(operands[0], operands[1]);",
    "    left = operands[0];",
    "    right = operands[1];",
    "    var comparable = (typeof left === 'number' && typeof right === 'number') ||",
    "      (typeof left === 'string' && typeof right === 'string');",
    "    if (!comparable) return false;",
    "    if (operator === '>') return left > right;",
    "    if (operator === '>=') return left >= right;",
    "    if (operator === '<') return left < right;",
    "    return left <= right;",
    "  \x7d",
    "",
    "  function evaluate(node, data) \x7b",
    "    var value = null;",
    "    var i;",
    "    switch (node.node) \x7b",
    "      case 'lit':",
    "        return node.value;",
    "      case 'path':",
    "        return lookup(node.path, data);",
    "      case 'not':",
    "        return !isTruthy(evaluate(node.operand, data));",
    "      case 'cmp':",
    "        return compare(node.operator, evaluate(node.left, data), evaluate(node.right, data));",
    "      case 'and':",
    "        for (i = 0; i < node.operands.length; i++) \x7b",
    "          value = evaluate(node.operands[i], data);",
    "          if (!isTruthy(value)) return value;",
    "        \x7d",
    "        return value;",
    "      case 'or':",
    "        for (i = 0; i < node.operands.length; i++) \x7b",
    "          value = evaluate(node.operands[i], data);",
    "          if (isTruthy(value)) return value;",
    "        \x7d",
    "        return value;",
    "    \x7d",
    "    throw new SyntaxError('Unknown expression node');",
    "  \x7d",
    "",
    "  function evaluateCondition(condition, data) \x7b",
    "    if (!condition || !String(condition).trim() || data == null) return true;",
    "    try \x7b",
    "      return isTruthy(evaluate(parseCondition(String(condition).trim()), data));",
    "    \x7d catch (e) \x7b",
    "      log('warn', 'Visibility condition could not be evaluated: ' + condition, e && e.message);",
    "      return true;",
    "    \x7d",
    "  \x7d",
    ""]

end Program

end ReportCompiler
